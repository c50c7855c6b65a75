import UrlMatch.Url.Basic
import UrlMatch.Url.Path

/-!
# Reading URLs

`Url.parse` reads a URL, which may be relative to another one. Blanks and controls around it and
tabs and line ends inside it do not count. Without a scheme of its own a text takes from the base
whatever it does not say itself, from the left.
-/

namespace UrlMatch.Url

/-- A tab or a line end. -/
def isIgnored (c : Char) : Bool := c == '\t' || c == '\n' || c == '\r'

/-- Drops tabs and line ends. -/
def dropIgnored (t : Text) : Text := t.filter fun c => !isIgnored c

/-- A control or a blank. -/
def isControlOrBlank (c : Char) : Bool := c.val ≤ 0x20

/-- Drops controls and blanks at both ends. -/
def trim (t : Text) : Text :=
  ((t.dropWhile isControlOrBlank).reverse.dropWhile isControlOrBlank).reverse

/-- Ends a path. -/
def endsPath (c : Char) : Bool := c == '?' || c == '#'

/-- Ends the authority. -/
def endsAuthority (kind : SchemeKind) (c : Char) : Bool := Path.isSlash kind c || endsPath c

/-- Cuts a text in front of the first character that `p` accepts. -/
def cutAt (p : Char → Bool) (t : Text) : Text × Text :=
  (t.takeWhile fun c => !p c, t.dropWhile fun c => !p c)

/-- The scheme that a text begins with, and what stands behind its colon. -/
def takeScheme? (t : Text) : Option (Text × Text) :=
  let isPart (c : Char) := c.isAlphanum || c == '+' || c == '-' || c == '.'
  match t with
  | c :: _ =>
    if c.isAlpha then
      match t.dropWhile isPart with
      | ':' :: rest => some (Text.asciiLower (t.takeWhile isPart), rest)
      | _ => none
    else none
  | [] => none

/-- The query and the fragment that a text with their marks stands for. -/
def takeTail (kind : SchemeKind) (t : Text) : Option Text × Option Text :=
  let fragment (t : Text) := match t with
    | '#' :: rest => some (Percent.encode Percent.fragment rest)
    | _ => none
  match t with
  | '?' :: rest =>
    let (query, rest) := cutAt (· == '#') rest
    let reserved := if kind.isSpecial then Percent.specialQuery else Percent.query
    (some (Percent.encode reserved query), fragment rest)
  | t => (none, fragment t)

/-- Completes a URL by what stands behind its path. -/
def withTail (u : Url) (t : Text) : Url :=
  let (query, fragment) := takeTail u.kind t
  { u with query, fragment }

/-- What stands between the two slashes and the path. -/
structure Authority where
  username : Text
  password : Option Text
  host : Option Host
  port : Option Nat
deriving Repr, DecidableEq

/-- A user name and a password, separated by the first colon. An empty password is none. -/
def takeUser (t : Text) : Text × Option Text :=
  let (name, rest) := cutAt (· == ':') t
  let password := rest.drop 1
  (Percent.encode Percent.userinfo name,
    if password = [] then none else some (Percent.encode Percent.userinfo password))

/-- The number of characters before the first colon outside of brackets. -/
def hostLength (inside : Bool) : Text → Nat
  | [] => 0
  | c :: rest =>
    if c = ':' ∧ !inside then 0
    else hostLength (if c = '[' then true else if c = ']' then false else inside) rest + 1

/-- Reads a host. Only a scheme without conventions for hosts can do without one. -/
def parseHost (kind : SchemeKind) (t : Text) : Except Error (Option Host) :=
  if kind.isSpecial then
    if t = [] then .error .emptyHost else (Host.parse t).map some
  else (Host.parseOpaque t).map fun h => if h = .domain [] then none else some h

/-- Reads a port, of which the scheme's own is left out, and returns the rest. -/
def takePort (scheme t : Text) : Except Error (Option Nat × Text) :=
  let (digits, rest) := cutAt (fun c => !c.isDigit) t
  let n := decimalValue digits
  if 65535 < n then .error .port
  else if rest.head?.any (· != '\\') then .error .port
  else if digits = [] ∨ defaultPort? scheme = some (decimal n) then .ok (none, rest)
  else .ok (some n, rest)

/-- Reads the authority, given the text up to its end and the text behind it. -/
def takeAuthority (scheme t behind : Text) : Except Error (Authority × Text) := do
  let kind := SchemeKind.ofScheme scheme
  let (user, rest) := (Text.cutAfterLast? '@' t).getD ([], t)
  if user = ['@'] ∧ rest = [] ∧ behind ≠ [] then throw .emptyHost
  let (username, password) := takeUser user.dropLast
  let n := hostLength false rest
  let host ← parseHost kind (rest.take n)
  match rest.drop n with
  | [] =>
    if host.isNone ∧ (username ≠ [] ∨ password.isSome) then throw .emptyHost
    return (⟨username, password, host, none⟩, behind)
  | _ :: portText =>
    if host.isNone then throw .emptyHost
    let (port, rest) ← takePort scheme portText
    return (⟨username, password, host, port⟩, rest ++ behind)

/-- The URL of an authority and a path. -/
def ofAuthority (scheme : Text) (a : Authority) (path : Text) : Url where
  scheme
  username := a.username
  password := a.password
  authority := true
  host := a.host
  port := a.port
  path
  query := none
  fragment := none

/-- The URL of a path alone. -/
def ofPath (scheme path : Text) : Url where
  scheme
  username := []
  password := none
  authority := false
  host := none
  port := none
  path
  query := none
  fragment := none

/-- Reads what stands behind a scheme and two slashes. -/
def parseAuthority (scheme t : Text) : Except Error Url := do
  let kind := SchemeKind.ofScheme scheme
  let (front, behind) := cutAt (endsAuthority kind) t
  let (a, rest) ← takeAuthority scheme front behind
  let (path, rest) := cutAt endsPath rest
  return withTail (ofAuthority scheme a (Path.parse kind false path)) rest

/-- The name of the scheme for files. -/
def fileScheme : Text := "file".toList

/-- The URL of a file on a host. -/
def ofFile (host : Option Host) (path : Text) : Url :=
  ofAuthority fileScheme ⟨[], none, host, none⟩ path

/-- Reads the host of a file. The local host is none. -/
def parseFileHost (t : Text) : Except Error (Option Host) :=
  if t = [] then .ok none
  else (Host.parse t).map fun h => if h = .domain "localhost".toList then none else some h

/-- A drive letter stands at the front of the path, so that a host makes no sense. -/
def hasDrive (t : Text) : Bool := Path.meetsDrive .file ['/'] (Path.segments .file (t.drop 1))

/-- Reads what stands behind the scheme `file` and two slashes. -/
def parseFileAuthority (t : Text) : Except Error Url := do
  let (front, behind) := cutAt (endsAuthority .file) t
  if Path.isDriveLetter front then
    let (path, rest) := cutAt endsPath t
    return withTail (ofFile none (Path.extend .file ['/'] path)) rest
  let host ← parseFileHost front
  let (path, rest) := cutAt endsPath behind
  let kept := if hasDrive path then none else host
  return withTail (ofFile kept (Path.parse .file host.isNone path)) rest

/-- Everything but the fragment of a base. -/
def withoutFragment (base : Url) : Url := { base with fragment := none }

/-- The base with another fragment. -/
def withFragment (base : Url) (t : Text) : Url :=
  { base with fragment := some (Percent.encode Percent.fragment t) }

/-- The base with another path, and with what stands behind it. -/
def withPath (base : Url) (path rest : Text) : Url := withTail { base with path } rest

/-- Reads what stands behind the scheme `file`, or what is relative to a file. -/
def parseFile (base : Option Url) (t : Text) : Except Error Url :=
  let isSlash := Path.isSlash .file
  match t, base with
  | c :: d :: rest, base =>
    if isSlash c && isSlash d then parseFileAuthority rest
    else if isSlash c then .ok (fromRoot base t)
    else .ok (relative base t)
  | [c], base => if isSlash c then .ok (fromRoot base t) else .ok (relative base t)
  | [], base => .ok (relative base [])
where
  /-- Reads a path that begins with a slash. -/
  fromRoot (base : Option Url) (t : Text) : Url :=
    let (path, rest) := cutAt endsPath t
    let (host, start) := match base with
      | none => (none, [])
      | some b =>
        if Path.startsWithDrive (t.drop 1) then (none, [])
        else if Path.isNormalDriveLetter (Path.firstSegment b.path) then
          (none, '/' :: Path.firstSegment b.path)
        else (b.host, [])
    withTail (ofFile host (Path.extend .file start path)) rest
  /-- Reads what begins with no slash. -/
  relative (base : Option Url) (t : Text) : Url :=
    let (path, rest) := cutAt endsPath t
    match base, t with
    | some b, [] => withoutFragment b
    | some b, '?' :: _ => withTail b t
    | some b, '#' :: rest => withFragment b rest
    | some b, _ =>
      if Path.startsWithDrive t then withTail (ofFile none (Path.extend .file ['/'] path)) rest
      else withPath b (Path.extend .file (Path.dropLast .file b.path) path) rest
    | none, _ => withTail (ofFile none (Path.extend .file ['/'] path)) rest

/-- Reads what is relative to a base that is no file. -/
def parseRelative (base : Url) (t : Text) : Except Error Url :=
  let isSlash (c : Char) := c == '/' || c == '\\'
  match t with
  | [] => .ok (withoutFragment base)
  | '?' :: _ => .ok (withTail base t)
  | '#' :: rest => .ok (withFragment base rest)
  | c :: rest =>
    if isSlash c then
      if rest.head?.any isSlash then
        match t with
        | '/' :: '/' :: rest => parseAuthority base.scheme rest
        | t => parseAuthority base.scheme (t.dropWhile isSlash)
      else
        let (path, rest) := cutAt endsPath rest
        .ok (withPath base (Path.extend base.kind ['/'] path) rest)
    else
      let (path, rest) := cutAt endsPath t
      let start := if base.path = [] then ['/'] else Path.dropLast base.kind base.path
      .ok (withPath base (Path.extend base.kind start path) rest)

/-- Reads what stands behind a scheme without conventions. -/
def parsePlain (scheme t : Text) : Except Error Url :=
  match t with
  | '/' :: '/' :: rest => parseAuthority scheme rest
  | '/' :: rest =>
    let (path, rest) := cutAt endsPath rest
    .ok (withTail (ofPath scheme (Path.extend .plain ['/'] path)) rest)
  | t =>
    let (path, rest) := cutAt endsPath t
    .ok (withTail (ofPath scheme (Percent.encode Percent.controls path)) rest)

/-- Reads what stands behind a scheme. -/
def parseWithScheme (base : Option Url) (scheme t : Text) : Except Error Url :=
  match SchemeKind.ofScheme scheme with
  | .file => parseFile (base.filter fun b => b.scheme = scheme) t
  | .network =>
    let isSlash (c : Char) := c == '/' || c == '\\'
    let slashes := (t.takeWhile isSlash).length
    match base with
    | some b =>
      if slashes < 2 ∧ b.scheme = scheme then parseRelative b t
      else parseAuthority scheme (t.dropWhile isSlash)
    | none => parseAuthority scheme (t.dropWhile isSlash)
  | .plain => parsePlain scheme t

/-- Reads a URL, relative to a base if one is given. -/
def parse (base : Option Url) (t : Text) : Except Error Url :=
  let t := dropIgnored (trim t)
  match takeScheme? t, base with
  | some (scheme, rest), base => parseWithScheme base scheme rest
  | none, none => .error .relativeWithoutBase
  | none, some b =>
    match t with
    | '#' :: rest => .ok (withFragment b rest)
    | t =>
      if b.isOpaque then .error .relativeToOpaqueBase
      else if b.kind = .file then parseFile (some b) t
      else parseRelative b t

end UrlMatch.Url
