import UrlMatch.Percent
import UrlMatch.Url.Scheme

/-!
# Paths

A path is built segment by segment. `Path.push` adds one segment to a path: a segment of two dots
takes back the one before it, a segment of one dot adds nothing, any other is percent-encoded and
appended. In a path of the scheme `file` a drive letter at the front cannot be taken back.
-/

namespace UrlMatch.Url.Path

/-- Separates segments. -/
def isSlash (kind : SchemeKind) (c : Char) : Bool := c == '/' || (c == '\\' && kind.isSpecial)

/-- Marks all pieces but the last one. -/
def markAllButLast : List Text → List (Text × Bool)
  | [] => []
  | [piece] => [(piece, false)]
  | piece :: next :: pieces => (piece, true) :: markAllButLast (next :: pieces)

/-- Cuts a text into segments, each with the mark whether a slash follows it. -/
def segments (kind : SchemeKind) (t : Text) : List (Text × Bool) :=
  markAllButLast (Text.splitBy (isSlash kind) t)

/-- A dot, plain or percent-encoded, in front of a segment, and what is left. -/
def stripDot? : Text → Option Text
  | '.' :: rest => some rest
  | '%' :: '2' :: 'e' :: rest => some rest
  | '%' :: '2' :: 'E' :: rest => some rest
  | _ => none

/-- A segment that stands for nothing. -/
def isSingleDot (segment : Text) : Bool := stripDot? segment == some []

/-- A segment that takes back the one before it. -/
def isDoubleDot (segment : Text) : Bool := (stripDot? segment).bind stripDot? == some []

/-- A letter and a colon or a bar. -/
def isDriveLetter : Text → Bool
  | [c, d] => c.isAlpha && (d == ':' || d == '|')
  | _ => false

/-- A drive letter, and what comes next ends a segment in some URL. -/
def startsWithDrive (t : Text) : Bool :=
  isDriveLetter (t.take 2) && (t.drop 2).head?.all (· ∈ ['/', '\\', '?', '#'])

/-- A letter and a colon. -/
def isNormalDriveLetter : Text → Bool
  | [c, d] => c.isAlpha && d == ':'
  | _ => false

/-- The path ends in a slash. -/
def endsInSlash (path : Text) : Bool := path.getLast? == some '/'

/-- Adds a slash unless the path ends in one. -/
def closed (path : Text) : Text := if endsInSlash path then path else path ++ ['/']

/-- The part up to and including the last slash, and the segment behind it. -/
def cutLast (path : Text) : Text × Text := (Text.cutAfterLast? '/' path).getD ([], path)

/-- Takes the last segment away, but not a drive letter. -/
def dropLast (kind : SchemeKind) (path : Text) : Text :=
  let (front, last) := cutLast path
  if kind = .file ∧ isNormalDriveLetter last then path else front

/-- Takes away the slash at the end, unless it is the first one or the segment in front of it
begins with a drive letter. A backslash behind that letter counts as the end of a segment even
where it is none. -/
def openLast (path : Text) : Text :=
  let front := path.dropLast
  if endsInSlash path ∧ '/' ∈ front ∧ !startsWithDrive (cutLast front).2 then front else path

/-- A drive letter at the front is written with a colon. -/
def normalDrive : Text → Text
  | c :: _ => [c, ':']
  | [] => []

/-- The segment is a drive letter at the front of a path of the scheme `file`. -/
def isDrive (kind : SchemeKind) (path segment : Text) : Bool :=
  kind == .file && path.length == 1 && isDriveLetter segment

/-- Adds a segment to a path; `slash` says that a slash follows it. -/
def push (kind : SchemeKind) (path segment : Text) (slash : Bool) : Text :=
  let path :=
    if kind = .file ∧ segment ≠ [] ∧ isNormalDriveLetter (path.drop 1) then path ++ ['/'] else path
  let segment := Percent.encode Percent.path segment
  let behind := if slash then ['/'] else []
  if isDoubleDot segment then
    let path := dropLast kind (openLast path)
    if slash then closed path else path
  else if isSingleDot segment then closed path
  else if isDrive kind path segment then path ++ normalDrive segment ++ behind
  else path ++ segment ++ behind

/-- Adds the segments of a text to a path. -/
def pushAll (kind : SchemeKind) (path t : Text) : Text :=
  (segments kind t).foldl (fun path s => push kind path s.1 s.2) path

/-- Adds the segments of a text to a path. A path of the scheme `file` begins with exactly one
slash. -/
def extend (kind : SchemeKind) (path t : Text) : Text :=
  let path := pushAll kind path t
  if kind = .file then '/' :: path.dropWhile (· == '/') else path

/-- The path that a text behind the authority stands for. `bare` says that there is no host, so
that the slash of the authority does for the one that a special path begins with. -/
def parse (kind : SchemeKind) (bare : Bool) (t : Text) : Text :=
  if kind.isSpecial then
    if bare then extend kind [] t
    else match t with
      | c :: rest => if isSlash kind c then extend kind ['/'] rest else extend kind ['/'] t
      | [] => extend kind ['/'] []
  else match t with
    | [] => []
    | '/' :: _ => extend kind [] t
    | _ => extend kind ['/'] t

/-- Some of the segments is a drive letter at the front of the path. -/
def meetsDrive (kind : SchemeKind) (path : Text) : List (Text × Bool) → Bool
  | [] => false
  | s :: rest => isDrive kind path s.1 || meetsDrive kind (push kind path s.1 s.2) rest

/-- The first segment of a path. -/
def firstSegment (path : Text) : Text := (path.drop 1).takeWhile (· != '/')

end UrlMatch.Url.Path
