import SubnetRouter.Text.Split
import SubnetRouter.Url.Basic
import SubnetRouter.Url.PercentCoding
import SubnetRouter.Url.Scheme

/-!
# Reading paths

A path is cut at its slashes, and its segments are followed from left to right: a single dot
stays at the level, two dots lead to the level above, and every other segment is a level of its
own.  Tabs and line breaks do not count as characters of a path.  Drives are never left, and
at the top of a file path the bar of a drive becomes a colon.
-/

namespace SubnetRouter.Url

open Text

/-- A tab or a part of a line break. -/
def isBreak (c : Char) : Bool := c = '\t' || c = '\n' || c = '\r'

def withoutBreaks (text : List Char) : List Char := text.filter (!isBreak ·)

/-! ## Segments -/

/-- Undoes the percent coding of dots. -/
def decodeDots : List Char → List Char
  | '%' :: '2' :: 'e' :: rest => '.' :: decodeDots rest
  | '%' :: '2' :: 'E' :: rest => '.' :: decodeDots rest
  | c :: rest => c :: decodeDots rest
  | [] => []

def isSingleDot (segment : List Char) : Bool := decodeDots segment = ['.']

def isDoubleDot (segment : List Char) : Bool := decodeDots segment = ['.', '.']

/-- A letter and a colon or bar. -/
def isDrive : List Char → Bool
  | [letter, mark] => letter.isAlpha && (mark = ':' || mark = '|')
  | _ => false

/-- A drive, perhaps with a backslash and more after it. -/
def beginsWithDrive : List Char → Bool
  | letter :: mark :: '\\' :: _ => isDrive [letter, mark]
  | segment => isDrive segment

/-- The drive that a break sets off from the text after it, and that text. -/
def splitDrive? (segment : List Char) : Option (List Char × List Char) :=
  match segment.dropWhile isBreak with
  | letter :: rest =>
    match rest.dropWhile isBreak with
    | ':' :: rest =>
      let after := withoutBreaks rest
      if letter.isAlpha && rest.head?.any isBreak && !after.isEmpty then
        some ([letter, ':'], after)
      else none
    | _ => none
  | [] => none

/-! ## Levels -/

/-- How far a path leads. -/
structure Trail where
  /-- The levels from the lowest up. -/
  levels : List (List Char)
  /-- A segment at the top was a drive. -/
  onDrive : Bool

namespace Trail

def start : Trail := ⟨[], false⟩

/-- Leaves the lowest level. -/
def leave (trail : Trail) : Trail :=
  match trail.levels with
  | [] => trail
  | last :: above => if beginsWithDrive last then trail else { trail with levels := above }

def push (trail : Trail) (segment : List Char) : Trail :=
  { trail with levels := encode codedInPath segment :: trail.levels }

def enterTop (trail : Trail) (segment : List Char) : Trail :=
  match withoutBreaks segment, splitDrive? segment with
  | [letter, mark], _ =>
    if isDrive [letter, mark] then ⟨[[letter, ':']], true⟩ else trail.push [letter, mark]
  | _, some (drive, rest) => (trail.push drive).push rest
  | segment, none => trail.push segment

def follow (kind : SchemeKind) (trail : Trail) (segment : List Char) : Trail :=
  let name := withoutBreaks segment
  if isDoubleDot name then trail.leave
  else if isSingleDot name then trail
  else if kind = .file && trail.levels.isEmpty then trail.enterTop segment
  else trail.push name

/-- The path without empty segments in front of others. -/
def dropLeadingEmpty : List (List Char) → List (List Char)
  | [] :: next :: rest => dropLeadingEmpty (next :: rest)
  | segments => segments

def path (kind : SchemeKind) (trail : Trail) : Path :=
  let segments := trail.levels.reverse
  .segments (if kind = .file then dropLeadingEmpty segments else segments)

end Trail

/-! ## Paths -/

/-- The segments to follow: after dots at the end comes an empty one. -/
def route (kind : SchemeKind) (text : List Char) : List (List Char) :=
  let segments := pieces kind.isSlash text
  let endsInDots := segments.getLast?.any fun segment =>
    isSingleDot (withoutBreaks segment) || isDoubleDot (withoutBreaks segment)
  segments ++ if endsInDots then [[]] else []

def walk (kind : SchemeKind) (text : List Char) : Trail :=
  (route kind text).foldl (Trail.follow kind) .start

def readSegments (kind : SchemeKind) (text : List Char) : Path :=
  (walk kind text).path kind

def dropSlash (kind : SchemeKind) : List Char → List Char
  | c :: rest => if kind.isSlash c then rest else c :: rest
  | [] => []

/-- Reads the path after an authority.  It is empty only where the scheme is plain and there is
no text. -/
def readPath (kind : SchemeKind) (text : List Char) : Path :=
  if kind = .plain && text.isEmpty then .segments [] else readSegments kind (dropSlash kind text)

end SubnetRouter.Url
