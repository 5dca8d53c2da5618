import Countersign.Url.Host
import Countersign.Url.Path

/-! Addresses of nodes: parsing without a base, and writing. -/

namespace Countersign.Url

/-- An address such as `mailto:a@b` has no list of segments and cannot be extended. -/
inductive Path where
  | plain (text : String)
  | segments (parts : List String)
  deriving DecidableEq, Repr

structure Address where
  scheme : String
  username : String := ""
  password : Option String := none
  host : Option Host := none
  portNumber : Option Nat := none
  path : Path
  /-- Whether `/.` is written before the path, which would otherwise look like a host. -/
  shielded : Bool := false
  query : Option String := none
  fragment : Option String := none
  deriving DecidableEq, Repr

def defaultPort? : String → Option Nat
  | "http" | "ws" => some 80
  | "https" | "wss" => some 443
  | "ftp" => some 21
  | _ => none

def Kind.of (scheme : String) : Kind :=
  if scheme == "file" then .file
  else if (defaultPort? scheme).isSome then .network
  else .other

def cleaned (s : String) : List Char :=
  let outer (c : Char) := c.toNat ≤ 0x20
  withoutBreaks ((s.toList.dropWhile outer).reverse.dropWhile outer).reverse

def scheme? : List Char → Option (String × List Char)
  | [] => none
  | c :: cs =>
    let allowed (c : Char) := c.isAlphanum || c == '+' || c == '-' || c == '.'
    if c.isAlpha then
      match cs.dropWhile allowed with
      | ':' :: rest => some (String.ofList ((c :: cs.takeWhile allowed).map Char.toLower), rest)
      | _ => none
    else none

def breakAt (stop : Char → Bool) (cs : List Char) : List Char × List Char :=
  (cs.takeWhile (!stop ·), cs.dropWhile (!stop ·))

def isSlash (kind : Kind) (c : Char) : Bool :=
  c == '/' || (kind.isSpecial && c == '\\')

def isAuthorityEnd (kind : Kind) (c : Char) : Bool :=
  isSlash kind c || c == '?' || c == '#'

/-! ### The parts before the path -/

def splitUserinfo (authority : List Char) : Option (List Char) × List Char :=
  if authority.contains '@' then
    let back := authority.reverse.takeWhile (· != '@')
    (some (authority.reverse.drop (back.length + 1)).reverse, back.reverse)
  else (none, authority)

/-- Name and password. One that is empty is as good as none. -/
def credentials (info : List Char) : String × Option String :=
  let (name, rest) := breakAt (· == ':') info
  let password := rest.drop 1
  (String.ofList (encode inUserinfo name),
    if password.isEmpty then none else some (String.ofList (encode inUserinfo password)))

def hostText (inside : Bool) : List Char → List Char × List Char
  | [] => ([], [])
  | c :: cs =>
    if c = ':' ∧ !inside then ([], c :: cs)
    else
      let (host, rest) := hostText (if c = '[' then true else if c = ']' then false else inside) cs
      (c :: host, rest)

def readPortNumber (scheme : String) : List Char → Except UrlError (Option Nat × List Char)
  | ':' :: cs =>
    let digits := cs.takeWhile Char.isDigit
    let rest := cs.dropWhile Char.isDigit
    let n := Text.ofDigits (digits.filterMap Text.digit?)
    if 65535 < n || rest.head?.any (· != '\\') then .error .invalidPortNumber
    else .ok (if digits.isEmpty ∨ defaultPort? scheme = some n then none else some n, rest)
  | rest => .ok (none, rest)

/-! ### The parts from the path on -/

structure Tail where
  path : List Char
  query : Option String
  fragment : Option String

def tailOf (kind : Kind) (cs : List Char) : Tail :=
  let (front, fragment) := breakAt (· == '#') cs
  let (path, query) := breakAt (· == '?') front
  { path
    query := query.tail?.map fun q => String.ofList (encode (inQuery kind.isSpecial) q)
    fragment := fragment.tail?.map fun f => String.ofList (encode inFragment f) }

def pathAfterHost (kind : Kind) (path : List Char) : List (List Char) :=
  match path with
  | [] => if kind = .other then [] else [[]]
  | c :: rest => segmentsOf kind (if isSlash kind c then rest else c :: rest)

def Path.ofSegments (segments : List (List Char)) : Path :=
  .segments (segments.map String.ofList)

def withAuthority (scheme : String) (cs : List Char) : Except UrlError Address := do
  let kind := Kind.of scheme
  let (authority, rest) := breakAt (isAuthorityEnd kind) cs
  let (info, hostPort) := splitUserinfo authority
  if info == some [] ∧ hostPort.isEmpty ∧ !rest.isEmpty then throw .emptyHost
  let (username, password) := credentials (info.getD [])
  let (text, portText) := hostText false hostPort
  let host ← if kind = .other then otherHost text else specialHost text
  if text.isEmpty ∧ !portText.isEmpty then throw .emptyHost
  let (portNumber, more) ← readPortNumber scheme portText
  if text.isEmpty ∧ (username ≠ "" ∨ password.isSome) then throw .emptyHost
  let tail := tailOf kind (more ++ rest)
  return {
    scheme, username, password, portNumber
    host := some host
    path := .ofSegments (pathAfterHost kind tail.path)
    query := tail.query
    fragment := tail.fragment }

/-- The host of a file, and the rest. This computer is no host, and neither is a drive. -/
def fileHost (cs : List Char) : Except UrlError (Option Host × List Char) := do
  let (text, rest) := breakAt (isAuthorityEnd .file) cs
  if Segment.isDrive text then return (none, cs)
  if text.isEmpty then return (none, rest)
  let host ← specialHost text
  return (if host = .name "localhost" then none else some host, rest)

/-- The rest of a file's address after its scheme. A host gives way to a drive. -/
def ofFile (cs : List Char) : Except UrlError Address := do
  let (host, segments, tail) ← match cs with
    | a :: b :: rest =>
      if isSlash .file a ∧ isSlash .file b then do
        let (host, rest) ← fileHost rest
        let tail := tailOf .file rest
        let segments :=
          if host.isSome then pathAfterHost .file tail.path else segmentsOf .file tail.path
        let host := if segments.head?.any Segment.isDrive then none else host
        pure (host, segments, tail)
      else pure (plain cs)
    | cs => pure (plain cs)
  return {
    scheme := "file"
    host := some (host.getD (.name ""))
    path := .ofSegments (trimFront segments)
    query := tail.query
    fragment := tail.fragment }
where
  plain (cs : List Char) : Option Host × List (List Char) × Tail :=
    let tail := tailOf .file cs
    (none, pathAfterHost .file tail.path, tail)

def withoutHost (scheme : String) (cs : List Char) : Address :=
  let tail := tailOf .other cs
  let base : Address := {
    scheme
    path := .plain (String.ofList (encode isControl tail.path))
    query := tail.query
    fragment := tail.fragment }
  match tail.path with
  | '/' :: rest =>
    let segments := segmentsOf .other rest
    { base with
      path := .ofSegments segments
      shielded := segments.head? = some [] ∧ 1 < segments.length }
  | _ => base

def parse (s : String) : Except UrlError Address :=
  match scheme? (cleaned s) with
  | none => .error .relative
  | some (scheme, rest) =>
    match Kind.of scheme, rest with
    | .network, rest => withAuthority scheme (rest.dropWhile (isSlash .network))
    | .file, rest => ofFile rest
    | .other, '/' :: '/' :: rest => withAuthority scheme rest
    | .other, rest => .ok (withoutHost scheme rest)

namespace Address

def pathChars : Path → List Char
  | .plain text => text.toList
  | .segments parts => parts.flatMap fun s => '/' :: s.toList

def target (a : Address) : String :=
  String.ofList (pathChars a.path ++ (a.query.map fun q => '?' :: q.toList).getD [])

def write (a : Address) : String :=
  let info := match a.username, a.password with
    | "", none => []
    | name, none => name.toList ++ ['@']
    | name, some p => name.toList ++ ':' :: p.toList ++ ['@']
  let host := match a.host with
    | none => if a.shielded then ['/', '.'] else []
    | some h => '/' :: '/' :: info ++ h.chars ++
        (a.portNumber.map fun p => ':' :: Nat.toDigits 10 p).getD []
  let fragment := (a.fragment.map fun f => '#' :: f.toList).getD []
  a.scheme ++ String.ofList (':' :: host) ++ a.target ++ String.ofList fragment

/-- The address with more segments, but for dots. An empty segment at the end gives way to the first
of them, and so does a path that is nothing but a slash. -/
def extend? (a : Address) (more : List String) : Option Address :=
  match a.path with
  | .plain _ => none
  | .segments parts =>
    let parts := if 1 < parts.length ∧ parts.getLast? = some "" then parts.dropLast else parts
    let added := more.filter fun s => s != "." && s != ".."
    some { a with path := .segments (added.foldl (addSegment (Kind.of a.scheme)) parts) }

def decoded? (s : String) : Option String :=
  String.fromUTF8? ⟨(decode s.toList).toArray⟩

/-- The address as it may be shown, without name and password. They stay if they are no text. -/
def anonymous (a : Address) : Address :=
  match decoded? a.username, a.password.bind decoded? with
  | none, _ => a
  | some "", none => a
  | some _, _ => { a with username := "", password := none }

def appendPair (a : Address) (key value : String) : Address :=
  let pair := String.ofList (encodeForm key.toList ++ '=' :: encodeForm value.toList)
  { a with query := some (match a.query with
      | none | some "" => pair
      | some q => q ++ "&" ++ pair) }

def isAskable (a : Address) : Bool :=
  (a.scheme == "http" || a.scheme == "https") && a.write.utf8ByteSize < 65535 &&
    (a.host.map Host.chars).all (!·.any (['"', '`', '\x7b', '\x7d'].contains ·))

end Address
end Countersign.Url
