import QueryBlocks.Url.Address
import QueryBlocks.Url.Domain

/-!
# URLs

An address on the web: scheme, credentials, host, port, path, query and fragment. A text is
read leniently: blanks around it and line breaks inside do not count, any number of slashes
of either kind may follow the scheme, and characters that need it are percent-encoded. URLs
of other schemes are checked in the same way and known by their scheme only.
-/

set_option autoImplicit false

namespace QueryBlocks

inductive UrlError where
  | relativeWithoutBase
  | emptyHost
  | invalidPort
  | invalidIpv4
  | invalidIpv6
  | invalidDomain
  | invalidHostCharacter
deriving DecidableEq

def UrlError.message : UrlError → String
  | .relativeWithoutBase => "relative URL without a base"
  | .emptyHost => "empty host"
  | .invalidPort => "invalid port number"
  | .invalidIpv4 => "invalid IPv4 address"
  | .invalidIpv6 => "invalid IPv6 address"
  | .invalidDomain => "invalid international domain name"
  | .invalidHostCharacter => "invalid domain character"

inductive Host where
  | domain (name : String)
  | ipv4 (address : Nat)
  | ipv6 (groups : List Nat)

def Host.text : Host → String
  | .domain name => name
  | .ipv4 address => ipv4Text address
  | .ipv6 groups => "[" ++ ipv6Text groups ++ "]"

structure WebUrl where
  secure : Bool
  user : String
  password : String
  host : Host
  port : Option Nat
  path : List String
  query : Option String
  fragment : Option String

inductive Url where
  | web (url : WebUrl)
  | other (scheme : String)

namespace Url

inductive SchemeKind where
  | web (secure : Bool)
  | alike
  | file
  | free

def SchemeKind.ofName (scheme : String) : SchemeKind :=
  if scheme = "http" then .web false
  else if scheme = "https" then .web true
  else if scheme ∈ ["ws", "wss", "ftp"] then .alike
  else if scheme = "file" then .file
  else .free

def isSchemeChar (c : Char) : Bool := c.isAlphanum || c == '+' || c == '-' || c == '.'

def splitScheme (text : List Char) : Option (String × List Char) :=
  match text.dropWhile isSchemeChar with
  | ':' :: rest =>
    if text.head?.any Char.isAlpha then
      some (String.ofList ((text.takeWhile isSchemeChar).map Char.toLower), rest)
    else none
  | _ => none

def isSlash (c : Char) : Bool := c == '/' || c == '\\'

def significant (text : String) : List Char :=
  let isMargin (c : Char) : Bool := c.toNat ≤ 0x20
  let trimmed := ((text.toList.dropWhile isMargin).reverse.dropWhile isMargin).reverse
  trimmed.filter fun c => c != '\t' && c != '\n' && c != '\r'

def splitUser (authority : List Char) : Option (List Char) × List Char :=
  match authority.reverse.span (· ≠ '@') with
  | (_, []) => (none, authority)
  | (host, _ :: user) => (some user.reverse, host.reverse)

def splitPort : Bool → List Char → List Char × Option (List Char)
  | _, [] => ([], none)
  | bracket, c :: rest =>
    if c = ':' && !bracket then ([], some rest)
    else
      let (host, port) := splitPort (c = '[' || (bracket && c ≠ ']')) rest
      (c :: host, port)

def readBracketed (host : List Char) : Except UrlError Host :=
  if host.getLast? = some ']' then
    match readIpv6 (host.drop 1).dropLast with
    | some groups => .ok (.ipv6 groups)
    | none => .error .invalidIpv6
  else .error .invalidIpv6

def readHost (host : List Char) : Except UrlError Host :=
  if host.head? = some '[' then readBracketed host
  else
    match Domain.toAscii host with
    | none => .error .invalidDomain
    | some [] => .error .emptyHost
    | some name =>
      if endsInNumber name then
        match readIpv4 name with
        | some address => .ok (.ipv4 address)
        | none => .error .invalidIpv4
      else .ok (.domain (String.ofList name))

def readOpaqueHost (host : List Char) : Except UrlError Unit :=
  if host.head? = some '[' then (readBracketed host).map fun _ => ()
  else if host.any fun c => c.toNat = 0 || c ∈
      [' ', '#', '/', ':', '<', '>', '?', '@', '[', '\\', ']', '^', '|'] then
    .error .invalidHostCharacter
  else .ok ()

def readPort (digits : List Char) : Except UrlError (Option Nat) :=
  if digits.isEmpty then .ok none
  else
    match Text.readInBase 10 digits with
    | some port => if port ≤ 65535 then .ok (some port) else .error .invalidPort
    | none => .error .invalidPort

structure Authority where
  user : List Char
  password : List Char
  host : Host
  port : Option Nat

def readAuthority (text : List Char) : Except UrlError Authority := do
  let (credentials, place) := splitUser text
  let (name, port) := splitPort false place
  if name.isEmpty then .error .emptyHost
  else
    let host ← readHost name
    let port ← readPort (port.getD [])
    let credentials := credentials.getD []
    let user := credentials.takeWhile (· ≠ ':')
    return { user, password := credentials.drop (user.length + 1), host, port }

/-- The authority of a URL of a free scheme; `more` tells whether a path follows. The host
may be left out with all the rest. -/
def checkAuthority (text : List Char) (more : Bool) : Except UrlError Unit := do
  let (credentials, place) := splitUser text
  let (name, port) := splitPort false place
  readOpaqueHost name
  if name.isEmpty && (port.isSome || credentials.any fun user => more || !user.isEmpty) then
    .error .emptyHost
  else
    let _ ← readPort ((port.getD []).takeWhile (· ≠ '\\'))

def isPlain (c : Char) : Bool := 0x20 < c.toNat && c.toNat < 0x7F

def keptInFragment (c : Char) : Bool := isPlain c && !(['"', '<', '>', '\x60'].contains c)

def keptInPath (c : Char) : Bool :=
  keptInFragment c && !(['#', '?', Char.ofNat 0x7B, Char.ofNat 0x7D].contains c)

def keptInUser (c : Char) : Bool :=
  keptInPath c && !(['/', ':', ';', '=', '@', '[', '\\', ']', '^', '|'].contains c)

def keptInQuery (c : Char) : Bool := isPlain c && !(['"', '#', '<', '>', '\x27'].contains c)

def encode (kept : Char → Bool) (text : List Char) : String :=
  Text.percentEncode kept (String.ofList text)

def plainDots : List Char → List Char
  | '%' :: '2' :: 'e' :: rest => '.' :: plainDots rest
  | '%' :: '2' :: 'E' :: rest => '.' :: plainDots rest
  | c :: rest => c :: plainDots rest
  | [] => []

def isDriveLetter : List Char → Bool
  | [letter, mark] => letter.isAlpha && (mark == ':' || mark == '|')
  | _ => false

def leaveSegment : List String → List String
  | [] => []
  | segment :: done => if isDriveLetter segment.toList then segment :: done else done

def followPath : List (List Char) → List String → List String
  | [], done => done.reverse
  | segment :: rest, done =>
    let close (done : List String) := if rest.isEmpty then "" :: done else done
    if plainDots segment = ['.', '.'] then followPath rest (close (leaveSegment done))
    else if plainDots segment = ['.'] then followPath rest (close done)
    else followPath rest (encode keptInPath segment :: done)

def readPath (text : List Char) : List String :=
  let text := text.map fun c => if c = '\\' then '/' else c
  followPath ((if text.head? = some '/' then text.drop 1 else text).splitOn '/') []

def splitPath (text : List Char) : List Char × Option (List Char) × Option (List Char) :=
  let front := text.takeWhile (· ≠ '#')
  let fragment := match text.dropWhile (· ≠ '#') with
    | [] => none
    | _ :: rest => some rest
  let query := match front.dropWhile (· ≠ '?') with
    | [] => none
    | _ :: rest => some rest
  (front.takeWhile (· ≠ '?'), query, fragment)

def isAuthorityEnd (special : Bool) (c : Char) : Bool :=
  c == '/' || c == '?' || c == '#' || (special && c == '\\')

def defaultPort (secure : Bool) : Nat := if secure then 443 else 80

def readWeb (secure : Bool) (text : List Char) : Except UrlError WebUrl := do
  let (authority, rest) := (text.dropWhile isSlash).span (!isAuthorityEnd true ·)
  let authority ← readAuthority authority
  let (path, query, fragment) := splitPath rest
  return {
    secure
    user := encode keptInUser authority.user
    password := encode keptInUser authority.password
    host := authority.host
    port := authority.port.filter (· ≠ defaultPort secure)
    path := readPath path
    query := query.map (encode keptInQuery)
    fragment := fragment.map (encode keptInFragment) }

def checkFile (text : List Char) : Except UrlError Unit := do
  match text with
  | first :: second :: rest =>
    if isSlash first && isSlash second then
      let host := rest.takeWhile (!isAuthorityEnd true ·)
      if host.isEmpty || isDriveLetter host then return ()
      let _ ← readHost host
  | _ => return ()

def checkFree (text : List Char) : Except UrlError Unit :=
  match text with
  | '/' :: '/' :: rest =>
    let (authority, path) := rest.span (!isAuthorityEnd false ·)
    checkAuthority authority !path.isEmpty
  | _ => .ok ()

def parse (text : String) : Except UrlError Url := do
  match splitScheme (significant text) with
  | none => .error .relativeWithoutBase
  | some (scheme, rest) =>
    match SchemeKind.ofName scheme with
    | .web secure => return .web (← readWeb secure rest)
    | .alike =>
      let _ ← readAuthority ((rest.dropWhile isSlash).takeWhile (!isAuthorityEnd true ·))
      return .other scheme
    | .file => do
      checkFile rest
      return .other scheme
    | .free => do
      checkFree rest
      return .other scheme

end Url

def WebUrl.credentials (url : WebUrl) : String :=
  if url.user = "" ∧ url.password = "" then ""
  else url.user ++ (if url.password = "" then "" else ":" ++ url.password) ++ "@"

def WebUrl.text (url : WebUrl) : String :=
  (if url.secure then "https://" else "http://") ++ url.credentials ++ url.host.text ++
    (url.port.elim "" fun port => ":" ++ toString port) ++
    String.join (url.path.map ("/" ++ ·)) ++
    (url.query.elim "" ("?" ++ ·)) ++ (url.fragment.elim "" ("#" ++ ·))

end QueryBlocks
