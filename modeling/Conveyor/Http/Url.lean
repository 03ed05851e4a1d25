import Conveyor.Http.Host

namespace Conveyor.Http

/-- An absolute address, its parts escaped. -/
structure Url where
  scheme : String
  user : String := ""
  password : Option String := none
  host : Option String
  port : Option Nat := none
  path : String
  query : Option String := none
  fragment : Option String := none

namespace Url

/-- The schemes of the web, with the port they leave unwritten. -/
def special : List (String × Nat) :=
  [("http", 80), ("https", 443), ("ws", 80), ("wss", 443), ("ftp", 21)]

def userText (url : Url) : String :=
  if url.user = "" ∧ url.password.isNone then ""
  else url.user ++ (url.password.map (":" ++ ·)).getD "" ++ "@"

def text (url : Url) : String :=
  url.scheme ++ ":"
    ++ (match url.host with
      | some host => "//" ++ url.userText ++ host ++ (url.port.map fun port => s!":{port}").getD ""
      | none => if url.path.startsWith "//" then "/." else "")
    ++ url.path
    ++ (url.query.map ("?" ++ ·)).getD ""
    ++ (url.fragment.map ("#" ++ ·)).getD ""

/-- Controls and blanks at both ends do not count, and neither do line breaks and tabs anywhere. -/
def tidy (cs : List Char) : List Char :=
  let trim (cs : List Char) := cs.dropWhile (·.toNat ≤ 0x20)
  ((trim (trim cs).reverse).reverse).filter fun c => c ≠ '\t' && c ≠ '\n' && c ≠ '\r'

def isLetter (c : Char) : Bool := ('a' ≤ c && c ≤ 'z') || ('A' ≤ c && c ≤ 'Z')

def isDigit (c : Char) : Bool := '0' ≤ c && c ≤ '9'

def scheme? (cs : List Char) : Option (String × List Char) :=
  let found := cs.takeWhile fun c => isLetter c || isDigit c || c = '+' || c = '-' || c = '.'
  match cs.drop found.length, found with
  | ':' :: rest, first :: _ =>
    if isLetter first then some (String.ofList (found.map Char.toLower), rest) else none
  | _, _ => none

/-- Splits before the first character of a kind. -/
def before (p : Char → Bool) (cs : List Char) : List Char × List Char :=
  let found := cs.takeWhile (!p ·)
  (found, cs.drop found.length)

def isSlash (web : Bool) (c : Char) : Bool := c = '/' || (web && c = '\x5c')

def fragmentSet : List Char := " \"<>`".toList
def querySet (web : Bool) : List Char := " \"#<>".toList ++ if web then ['\''] else []
def pathSet : List Char := " \"#<>?`\x7b\x7d".toList
def userSet : List Char := pathSet ++ "/:;=@[\\]^|".toList

def encoded (set cs : List Char) : String := String.ofList (Text.Percent.encode set cs)

def isDot (segment : List Char) : Bool := segment = ['.'] || segment.map Char.toLower = "%2e".toList

def isDoubleDot (segment : List Char) : Bool :=
  segment.map Char.toLower ∈ ["..", "%2e.", ".%2e", "%2e%2e"].map String.toList

/-- The name of a drive, alone or before a backslash. -/
def isDrive (segment : List Char) : Bool :=
  match segment with
  | [a, b] | a :: b :: '\\' :: _ => isLetter a && (b = ':' || b = '|')
  | _ => false

/-- Goes up by one segment, but not out of a drive. -/
def parent (done : List (List Char)) : List (List Char) :=
  if done.getLast?.any isDrive then done else done.dropLast

/-- Goes through the segments after the first slash. Dots are followed rather than kept, and
every segment that is kept is changed according to those before it. -/
def settle (place : List (List Char) → List Char → List Char) (done : List (List Char)) :
    List (List Char) → List (List Char)
  | [] => done
  | [last] =>
    if isDoubleDot last then parent done ++ [[]]
    else if isDot last then done ++ [[]]
    else done ++ [place done last]
  | segment :: rest =>
    if isDoubleDot segment then settle place (parent done) rest
    else if isDot segment then settle place done rest
    else settle place (done ++ [place done segment]) rest

/-- Cuts at every slash. -/
def segments (web : Bool) (cs : List Char) : List (List Char) :=
  (cs.map fun c => if isSlash web c then '/' else c).splitOn '/'

def withoutSlash (web : Bool) : List Char → List Char
  | c :: rest => if isSlash web c then rest else c :: rest
  | [] => []

/-- A path with its leading slash. -/
def hierarchical (web : Bool) (cs : List Char) : String :=
  if cs.isEmpty then if web then "/" else ""
  else
    let found := segments web (withoutSlash web cs)
    "/" ++ encoded pathSet (['/'].intercalate (settle (fun _ segment => segment) [] found))

def tail (web : Bool) (cs : List Char) : Option String × Option String :=
  let (query, rest) := before (· = '#') cs
  ((match query with
    | '?' :: query => some (encoded (querySet web) query)
    | _ => none),
    (match rest with
    | '#' :: fragment => some (encoded fragmentSet fragment)
    | _ => none))

def isPathEnd (c : Char) : Bool := c = '?' || c = '#'

/-- Digits up to 65535, and what follows them, which is no part of a host; the scheme's own port
stays unwritten. -/
def port? (scheme : String) (cs : List Char) : Option (Option Nat × List Char) :=
  let (digits, rest) := cs.span isDigit
  if rest.head?.all fun c => isSlash true c || isPathEnd c then
    let n := digits.foldl (fun n c => n * 10 + (c.toNat - '0'.toNat)) 0
    if 65535 < n then none
    else if digits.isEmpty ∨ (scheme, n) ∈ special then some (none, rest)
    else some (some n, rest)
  else none

/-- Splits at the last at sign. -/
def splitUser (cs : List Char) : List Char × List Char :=
  let host := (cs.reverse.takeWhile (· ≠ '@')).reverse
  if host.length = cs.length then ([], cs) else (cs.take (cs.length - host.length - 1), host)

/-- A colon inside brackets belongs to the host. -/
def splitPort (cs : List Char) : List Char × List Char :=
  let inBrackets := if cs.head? = some '[' then (before (· = ']') cs).1 else []
  let (host, rest) := before (· = ':') (cs.drop inBrackets.length)
  (inBrackets ++ host, rest)

/-- Without a host there is neither a port nor anybody to log in as. -/
def withAuthority? (scheme : String) (web : Bool) (cs : List Char) : Option Url := do
  let (authority, rest) := before (fun c => isSlash web c || isPathEnd c) cs
  let (login, address) := splitUser authority
  let (name, secret) := before (· = ':') login
  let (host, port) := splitPort address
  let host ← if web then Host.special? host else Host.opaque? host
  if host = "" ∧ (login ∉ [[], [':']] ∨ !port.isEmpty ∨ (authority = ['@'] ∧ !rest.isEmpty)) then
    none
  else
    let (port, left) ← port? scheme (port.drop 1)
    let (path, rest) := before isPathEnd (left ++ rest)
    let (query, fragment) := tail web rest
    return {
      scheme, host, port, query, fragment
      user := encoded userSet name
      password := if secret.length ≤ 1 then none else some (encoded userSet (secret.drop 1))
      path := hierarchical web path }

def withoutAuthority (scheme : String) (cs : List Char) : Url :=
  let (path, rest) := before isPathEnd cs
  let (query, fragment) := tail false rest
  { scheme, host := none, query, fragment
    path := if path.head? = some '/' then hierarchical false path else encoded [] path }

def isBareDrive (segment : List Char) : Bool := segment.length = 2 && isDrive segment

/-- The first segment of a file's path may be a drive, which is written with a colon. -/
def placeDrive (done : List (List Char)) (segment : List Char) : List Char :=
  if done.isEmpty && isBareDrive segment then segment.take 1 ++ [':'] else segment

/-- The address of a file, from the path behind its first slash. A drive is on no host, and empty
segments in front are dropped. -/
def ofFile (host : String) (cs : List Char) : Url :=
  let (path, rest) := before isPathEnd cs
  let (query, fragment) := tail true rest
  let settled := settle placeDrive [] (segments true path)
  { scheme := "file", query, fragment
    host := some (if settled.head?.any isBareDrive then "" else host)
    path := "/" ++ encoded pathSet ((['/'].intercalate settled).dropWhile (· = '/')) }

/-- What stands behind two slashes is a host unless it is a drive. -/
def file? (cs : List Char) : Option Url :=
  let near := some (ofFile "" (withoutSlash true cs))
  match cs with
  | a :: b :: rest =>
    if isSlash true a && isSlash true b then
      let (name, path) := before (fun c => isSlash true c || isPathEnd c) rest
      if name.isEmpty ∨ isBareDrive name then some (ofFile "" rest)
      else do
        let host ← Host.special? name
        return if host = "localhost" then ofFile "" path else ofFile host (withoutSlash true path)
    else near
  | _ => near

/-- A web address has a host, whatever the number of slashes before it; of others only those
behind two slashes have one. -/
def ofText? (text : String) : Option Url := do
  let (scheme, rest) ← scheme? (tidy text.toList)
  if special.any (·.1 = scheme) then
    withAuthority? scheme true (rest.dropWhile (isSlash true))
  else if scheme = "file" then file? rest
  else
    match rest with
    | '/' :: '/' :: rest => withAuthority? scheme false rest
    | rest => return withoutAuthority scheme rest

end Url

end Conveyor.Http
