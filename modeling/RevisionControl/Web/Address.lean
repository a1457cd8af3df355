import RevisionControl.Web.HostName

/-!
# Addresses

An address has a scheme and a host, perhaps with a user and a service, and names a place there by a
path, a query and a fragment. It is read from a text in which blanks at the ends and line breaks do
not count, and is written in a normal form: the host as its own kind demands, the usual service left
out, and the path without steps to the same or the upper directory.

The schemes of the internet (`Kind.internet`) are read more freely than others: any number of
slashes may stand before the host, and a backslash is a slash. The host of a file address stands
alone, and gives way to a drive letter.
-/

namespace RevisionControl.Web

/-- Whether a character breaks a line; tabs count as such. -/
def isBreak (c : Char) : Bool :=
  c == '\t' || c == '\n' || c == '\r'

/-! ## Schemes -/

/-- The kinds of schemes. -/
inductive Kind where
  /-- A scheme of the internet, with the number of its usual service. -/
  | internet (service : Nat)
  /-- The scheme of files. -/
  | file
  /-- Any other scheme. -/
  | plain
deriving DecidableEq, Repr

/-- The kind of a scheme. -/
def Kind.ofScheme (scheme : String) : Kind :=
  match scheme with
  | "http" | "ws" => .internet 80
  | "https" | "wss" => .internet 443
  | "ftp" => .internet 21
  | "file" => .file
  | _ => .plain

/-- Whether the kind of a scheme has rules of its own. -/
def Kind.isSpecial : Kind → Bool
  | .plain => false
  | _ => true

/-- Whether a character is a slash for a kind. -/
def Kind.isSlash (kind : Kind) (c : Char) : Bool :=
  c == '/' || (kind.isSpecial && c == '\\')

/-- Whether a character may stand in a scheme. -/
def isSchemeChar (c : Char) : Bool :=
  c.isAlphanum || c == '+' || c == '-' || c == '.'

/-- Cuts a text behind its scheme, which is in lower case then, and the colon. -/
def cutScheme? (cs : List Char) : Option (String × List Char) :=
  let scheme := cs.takeWhile isSchemeChar
  if scheme.head?.any Char.isAlpha then
    match cs.dropWhile isSchemeChar with
    | ':' :: rest => some (String.ofList (scheme.map Char.toLower), rest)
    | _ => none
  else none

/-! ## User, host and service -/

/-- Cuts a text at the last `@`. -/
def cutUser (cs : List Char) : List Char × List Char :=
  let behind := (cs.reverse.takeWhile (· != '@')).reverse
  (cs.take (cs.length - behind.length - 1), behind)

/-- The text of the user information, which is left out if it is empty. -/
def userText (cs : List Char) : List Char :=
  let user := Percent.encode Percent.ofUser (cs.takeWhile (· != ':'))
  let password := Percent.encode Percent.ofUser ((cs.dropWhile (· != ':')).drop 1)
  let text := user ++ if password.isEmpty then [] else ':' :: password
  if text.isEmpty then [] else text ++ ['@']

/-- Cuts a text at the first colon outside of brackets. -/
def cutHost : (inBrackets : Bool) → List Char → List Char × List Char
  | _, [] => ([], [])
  | inBrackets, c :: rest =>
    if c = ':' ∧ !inBrackets then ([], c :: rest)
    else
      let (host, behind) := cutHost (c == '[' || (inBrackets && c != ']')) rest
      (c :: host, behind)

/-- The service whose number digits write; none if there are no digits. -/
def serviceOf (cs : List Char) : Except AddressFault (Option Nat) :=
  if cs.isEmpty then .ok none
  else
    match Ipv4.digitsValue? 10 cs with
    | some number => if number ≤ 65535 then .ok (some number) else .error .invalidService
    | none => .error .invalidService

/-- Where an address leads, in normal form, and what stands behind it. -/
structure Place where
  /-- The user information, with the sign behind it. -/
  user : List Char
  /-- The host. -/
  host : String
  /-- The number of the service, if it is not the usual one. -/
  service : Option Nat
  /-- What stands behind. -/
  behind : List Char

/-- Reads the place from a text that starts with it. -/
def readPlace (kind : Kind) (cs : List Char) : Except AddressFault Place := do
  let ends (c : Char) : Bool := kind.isSlash c || c == '?' || c == '#'
  let (user, rest) := cutUser (cs.takeWhile (!ends ·))
  let (host, colon) := cutHost false rest
  if host.isEmpty then .error .emptyHost
  else
    let host ← if kind.isSpecial then HostName.parseInternet host else HostName.parseOpaque host
    let digits := (colon.drop 1).takeWhile (· != '\\')
    let service ← serviceOf digits
    return {
      user := userText user
      host
      service := if service.any (Kind.internet · = kind) then none else service
      behind := (colon.drop 1).drop digits.length ++ cs.dropWhile (!ends ·) }

/-! ## Path, query and fragment -/

/-- Whether a segment means the directory itself. -/
def isHere (segment : List Char) : Bool :=
  ["." , "%2e"].contains (String.ofList (segment.map Char.toLower))

/-- Whether a segment means the upper directory. -/
def isUp (segment : List Char) : Bool :=
  ["..", "%2e.", ".%2e", "%2e%2e"].contains (String.ofList (segment.map Char.toLower))

/-- Whether a segment is a drive letter. -/
def isDrive : List Char → Bool
  | [letter, mark] => letter.isAlpha && (mark == ':' || mark == '|')
  | _ => false

/-- Whether a segment is a drive letter up to its first backslash. -/
def isOnDrive (segment : List Char) : Bool :=
  isDrive (segment.takeWhile (· != '\\'))

/-- The segments that a path goes through, with the last one first. -/
abbrev Route := List (List Char)

/-- Leaves the last segment, unless it is a drive letter. -/
def Route.leave : Route → Route
  | [] => []
  | last :: before => if isOnDrive last then last :: before else before

/-- Walks along written segments behind those gone so far; `enter` goes into a segment that leads
on. -/
def walkSegments (enter : Route → List Char → Except AddressFault Route) :
    (gone : Route) → List (List Char) → Except AddressFault Route
  | gone, [] => .ok gone
  | gone, written :: more =>
    let segment := written.filter (!isBreak ·)
    if isUp segment then
      walkSegments enter (if more.isEmpty then [] :: gone.leave else gone.leave) more
    else if isHere segment then
      walkSegments enter (if more.isEmpty then [] :: gone else gone) more
    else do walkSegments enter (← enter gone written) more

/-- Goes into a segment, whatever it is. -/
def enterAny (gone : Route) (written : List Char) : Except AddressFault Route :=
  .ok (Percent.encode Percent.ofPath written :: gone)

/-- What stands behind a drive letter and a line break in the same segment, if anything does. -/
def behindDrive? (written : List Char) : Option (List Char) :=
  match written.dropWhile isBreak with
  | [] => none
  | letter :: rest =>
    match rest.dropWhile isBreak with
    | ':' :: c :: rest =>
      let behind := rest.filter (!isBreak ·)
      if letter.isAlpha && isBreak c && !behind.isEmpty then some behind else none
    | _ => none

/-- Goes into a segment of the path of a file. A drive letter at its start takes the place of the
host, unless the segment goes on behind a line break: then a new segment starts there. -/
def enterFile (gone : Route) (written : List Char) : Except AddressFault Route :=
  let segment := Percent.encode Percent.ofPath (written.filter (!isBreak ·))
  if gone.isEmpty then
    if isDrive segment then .error .emptyHost
    else
      match behindDrive? written with
      | some behind => .ok [Percent.encode Percent.ofPath behind, segment.take 2]
      | none => .ok [segment]
  else .ok (segment :: gone)

/-- The segments that a path goes through, in order. -/
def segments (kind : Kind) (path : List Char) : Except AddressFault (List (List Char)) :=
  let written := Text.fields '/' (path.map fun c => if kind.isSlash c then '/' else c)
  (walkSegments (if kind = .file then enterFile else enterAny) [] written).map List.reverse

/-- The text of a path. -/
def pathText (segments : List (List Char)) : List Char :=
  segments.flatMap ('/' :: ·)

/-- The path in normal form; what is not empty starts with a slash. -/
def normalPath (kind : Kind) (path : List Char) : Except AddressFault (List (List Char)) :=
  match path with
  | [] => .ok (if kind.isSpecial then [[]] else [])
  | c :: rest => segments kind (if kind.isSlash c then rest else c :: rest)

/-- The query and the fragment in normal form, with the signs before them. -/
def tailText (kind : Kind) (cs : List Char) : List Char :=
  let query := cs.takeWhile (· != '#')
  let set := if kind.isSpecial then '\'' :: Percent.ofQuery else Percent.ofQuery
  let queryText := match query with
    | [] => []
    | mark :: rest => mark :: Percent.encode set rest
  let fragmentText := match cs.dropWhile (· != '#') with
    | [] => []
    | mark :: rest => mark :: Percent.encode Percent.ofFragment rest
  queryText ++ fragmentText

/-! ## Addresses -/

/-- An address with a host. -/
structure Address where
  /-- The scheme. -/
  scheme : String
  /-- The whole address in normal form. -/
  text : String
deriving DecidableEq, Repr

/-- The address of a place and what stands behind it. -/
def Address.ofPlace (scheme : String) (kind : Kind) (place : Place) :
    Except AddressFault Address := do
  let path := place.behind.takeWhile (fun c => c != '?' && c != '#')
  let tail := place.behind.dropWhile (fun c => c != '?' && c != '#')
  let service := place.service.elim "" (":" ++ toString ·)
  return {
    scheme
    text := scheme ++ "://" ++ String.ofList place.user ++ place.host ++ service ++
      String.ofList (pathText (← normalPath kind path) ++ tailText kind tail) }

/-- Reads the address of a file, behind the scheme. Line breaks still stand in the text, since the
path has a use for them. -/
def readFile (cs : List Char) : Except AddressFault Address := do
  let leads (c : Char) : Bool := isBreak c || Kind.file.isSlash c
  let ends (c : Char) : Bool := Kind.file.isSlash c || c == '?' || c == '#'
  let slashes := (cs.takeWhile leads).filter (!isBreak ·)
  let rest := cs.dropWhile leads
  let host := (rest.takeWhile (!ends ·)).filter (!isBreak ·)
  if slashes.length != 2 || host.isEmpty || isDrive host then .error .emptyHost
  else
    let host ← HostName.parseInternet host
    if host = "localhost" then .error .emptyHost
    else
      let behind := rest.dropWhile (!ends ·)
      let path := behind.takeWhile (fun c => c != '?' && c != '#')
      let tail := (behind.dropWhile (fun c => c != '?' && c != '#')).filter (!isBreak ·)
      let segments := (← normalPath .file path).dropWhile List.isEmpty
      let segments := if segments.isEmpty then [[]] else segments
      return {
        scheme := "file"
        text := "file://" ++ host ++ String.ofList (pathText segments ++ tailText .file tail) }

/-- A text without the characters up to the space at its ends, which do not count. -/
def withoutEnds (cs : List Char) : List Char :=
  let blank (c : Char) : Bool := c.toNat ≤ 0x20
  ((cs.dropWhile blank).reverse.dropWhile blank).reverse

/-- The address with a host that a text is. -/
def Address.parse (s : String) : Except AddressFault Address :=
  let cs := withoutEnds s.toList
  match cutScheme? (cs.filter (!isBreak ·)) with
  | none => .error .noScheme
  | some (scheme, rest) =>
    match Kind.ofScheme scheme with
    | .internet service => do
      let kind := Kind.internet service
      Address.ofPlace scheme kind (← readPlace kind (rest.dropWhile kind.isSlash))
    | .file => readFile ((cs.dropWhile (· != ':')).drop 1)
    | .plain =>
      match rest with
      | '/' :: '/' :: rest => do Address.ofPlace scheme .plain (← readPlace .plain rest)
      | _ => .error .emptyHost

/-! ## Requests -/

/-- Why no request can be sent to an address, if none can. -/
def refusal? (address : String) : Option Refusal :=
  match Address.parse address with
  | .error fault => some (.badAddress fault)
  | .ok parsed =>
    if parsed.scheme = "http" ∨ parsed.scheme = "https" then none
    else some (.unknownScheme parsed.text parsed.scheme)

end RevisionControl.Web
