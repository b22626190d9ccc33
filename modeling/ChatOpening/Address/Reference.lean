import ChatOpening.Address.Url

/-!
# Reading URLs

A text is read as a URL of its own, or relative to another URL, which supplies what the text leaves out at its front.
Controls and blanks around the text do not count, nor do tabs and line ends in it. Of the segments of a path, a dot
stands for the same place and two dots for the one above; their escaped forms do, too. A segment that names a drive,
a letter with a colon or a bar, is not left by two dots, and the path of a file that begins with it needs no host.
-/

namespace ChatOpening

namespace Url

/-- The characters that count. -/
def stripped (s : String) : List Char :=
  let isEdge (c : Char) : Bool := c ≤ ' '
  let inner := ((s.toList.dropWhile isEdge).reverse.dropWhile isEdge).reverse
  inner.filter fun c => c ≠ '\t' && c ≠ '\n' && c ≠ '\r'

def isSchemeChar (c : Char) : Bool :=
  c.isAlphanum || c = '+' || c = '-' || c = '.'

/-- The scheme at the front, and what follows its colon. -/
def scheme? (cs : List Char) : Option (String × List Char) :=
  match cs with
  | [] => none
  | c :: _ =>
    if c.isAlpha then
      match cs.dropWhile isSchemeChar with
      | ':' :: rest => some (String.ofList ((cs.takeWhile isSchemeChar).map Char.toLower), rest)
      | _ => none
    else none

/-- Splits at the first of a mark. -/
def splitAtFirst (mark : Char) (cs : List Char) : List Char × Option (List Char) :=
  (cs.takeWhile (· ≠ mark), (cs.dropWhile (· ≠ mark)).tail?)

/-- A text behind the scheme, in front of query and fragment, and these. -/
structure Pieces where
  front : List Char
  query : Option (List Char)
  fragment : Option (List Char)

def pieces (cs : List Char) : Pieces :=
  let (before, fragment) := splitAtFirst '#' cs
  let (front, query) := splitAtFirst '?' before
  { front, query, fragment }

def isSlash (special : Bool) (c : Char) : Bool :=
  c = '/' || (special && c = '\\')

/-- The forms of a segment that stands for the same place. -/
def isSingleDot (segment : String) : Bool :=
  [".", "%2e"].contains segment.toLower

/-- The forms of a segment that stands for the place above. -/
def isDoubleDot (segment : String) : Bool :=
  ["..", ".%2e", "%2e.", "%2e%2e"].contains segment.toLower

/-- Whether a text is the name of a drive. -/
def isDrive (cs : List Char) : Bool :=
  match cs with
  | [letter, mark] => letter.isAlpha && (mark = ':' || mark = '|')
  | _ => false

/-- Whether a segment begins with the name of a drive. -/
def beginsWithDrive (segment : String) : Bool :=
  isDrive (segment.toList.take 2) && (segment.toList.drop 2).head?.all (· = '\\')

/-- The segments of the place above. -/
def above (done : List String) : List String :=
  if done.getLast?.any beginsWithDrive then done else done.dropLast

/-- A segment as it stands behind others: the name of a drive has a colon where the path of a file begins with it. -/
def settled (isFile : Bool) (done : List String) (segment : String) : String :=
  if isFile && done.isEmpty && isDrive segment.toList then String.ofList (segment.toList.take 1 ++ [':']) else segment

/-- Puts segments behind others. -/
def addSegments (isFile : Bool) (done : List String) : List String → List String
  | [] => done
  | [last] =>
    if isDoubleDot last then above done ++ [""]
    else if isSingleDot last then done ++ [""]
    else done ++ [settled isFile done last]
  | segment :: others =>
    if isDoubleDot segment then addSegments isFile (above done) others
    else if isSingleDot segment then addSegments isFile done others
    else addSegments isFile (done ++ [settled isFile done segment]) others

/-- The segments of a text, escaped. -/
def segmentsIn (special : Bool) (cs : List Char) : List String :=
  (cs.splitOnP (isSlash special)).map (Percent.escaped Percent.inPath)

/-- The segments of a path, without the slash at its front, behind others. -/
def segmentsOf (special : Bool) (done : List String) (cs : List Char) : List String :=
  addSegments false done (segmentsIn special cs)

/-- The path behind an authority. -/
def rootedPath (special : Bool) (cs : List Char) : UrlPath :=
  match cs with
  | [] => .segments (if special then [""] else [])
  | c :: rest => .segments (segmentsOf special [] (if isSlash special c then rest else c :: rest))

/-- The host in front of a colon that does not stand in brackets, and what follows. -/
def splitHost : (inside : Bool) → List Char → List Char × List Char
  | _, [] => ([], [])
  | inside, c :: rest =>
    if c = ':' && !inside then ([], c :: rest)
    else
      let (host, others) := splitHost (c = '[' || (inside && c ≠ ']')) rest
      (c :: host, others)

/-- The number of a port, if it is not the one that the scheme implies. -/
def port? (scheme : String) (digits : List Char) : Option (Option Nat) :=
  if digits.isEmpty then some none
  else
    match Host.digitsValue? 10 digits with
    | none => none
    | some n => if 65535 < n then none else some (if impliedPort scheme = some n then none else some n)

/-- The user in front of the last mark, and what follows. -/
def splitUser (cs : List Char) : Option (List Char) × List Char :=
  match (cs.reverse.dropWhile (· ≠ '@')) with
  | [] => (none, cs)
  | _ :: user => (some user.reverse, (cs.reverse.takeWhile (· ≠ '@')).reverse)

/-- A URL with nothing but a scheme and an authority. -/
def withAuthority (scheme : String) (cs : List Char) : Option Url := do
  let special := isSpecialScheme scheme
  let (user, place) := splitUser cs
  let (name, password) := splitAtFirst ':' (user.getD [])
  let (host, rest) := splitHost false place
  if host.isEmpty && (special || user.isSome || !rest.isEmpty) then none
  let host ← if special then Host.ofSpecial? host else Host.ofPlain? host
  let port ← port? scheme rest.tail
  return {
    scheme
    user := Percent.escaped Percent.inUser name
    password := (password.filter (!·.isEmpty)).map (Percent.escaped Percent.inUser)
    host := some host
    port
    path := .segments []
    query := none
    fragment := none }

/-- Gives a URL its query and its fragment. -/
def withTail (u : Url) (p : Pieces) : Url :=
  let inQuery := if isSpecialScheme u.scheme then Percent.inSpecialQuery else Percent.inQuery
  { u with
    query := p.query.map (Percent.escaped inQuery)
    fragment := p.fragment.map (Percent.escaped Percent.inFragment) }

/-- A URL from what stands behind the two slashes. -/
def behindSlashes (scheme : String) (p : Pieces) (cs : List Char) : Option Url :=
  let special := isSpecialScheme scheme
  let isEnd (c : Char) : Bool := isSlash special c
  (withAuthority scheme (cs.takeWhile (!isEnd ·))).map fun u =>
    { u with path := rootedPath special (cs.dropWhile (!isEnd ·)) }.withTail p

/-- A text without the slash at its front. -/
def withoutSlash (cs : List Char) : List Char :=
  match cs with
  | [] => []
  | c :: rest => if isSlash true c then rest else c :: rest

/-- The path of a file, which starts with one slash only. -/
def filePath (cs : List Char) : List String :=
  match (addSegments true [] (segmentsIn true cs)).dropWhile (· = "") with
  | [] => [""]
  | kept => kept

/-- The URL of a file. -/
def ofFile (p : Pieces) : Option Url :=
  let build (host : Host) (path : List String) : Url :=
    Url.withTail
      { scheme := "file"
        user := ""
        password := none
        host := some host
        port := none
        path := .segments path
        query := none
        fragment := none } p
  let slashes := (p.front.takeWhile (isSlash true)).length
  if slashes < 2 then some (build (.name "") (filePath (withoutSlash p.front)))
  else
    let behind := p.front.drop 2
    let host := behind.takeWhile (!isSlash true ·)
    let rest := behind.dropWhile (!isSlash true ·)
    if host.isEmpty || isDrive host then some (build (.name "") (filePath behind))
    else
      (Host.ofSpecial? host).map fun h =>
        if h = .name "localhost" then build (.name "") (filePath rest)
        else
          let path := filePath (withoutSlash rest)
          build (if path.head?.any (isDrive ·.toList) then .name "" else h) path

/-- The URL of a scheme without authority. -/
def ofPlainScheme (scheme : String) (p : Pieces) : Url :=
  let path : UrlPath :=
    match p.front with
    | '/' :: rest => .segments (segmentsOf false [] rest)
    | front => .plain (Percent.escaped Percent.always front)
  Url.withTail
    { scheme, user := "", password := none, host := none, port := none, path, query := none, fragment := none } p

/-- The URL that a text without scheme means beside another. -/
def beside (base : Url) (p : Pieces) : Option Url :=
  let special := isSpecialScheme base.scheme
  match base.path, p.front with
  | .plain _, _ => none
  | .segments _, [] =>
    let kept := if p.query.isSome then p else { p with query := base.query.map String.toList }
    some (base.withTail kept)
  | .segments list, c :: rest =>
    if isSlash special c then
      if rest.head?.any (isSlash special) then behindSlashes base.scheme p (p.front.dropWhile (isSlash special))
      else some ({ base with path := rootedPath special p.front }.withTail p)
    else some ({ base with path := .segments (segmentsOf special list.dropLast p.front) }.withTail p)

/-- Whether a text behind the scheme of a URL continues that URL. -/
def continues (base : Url) (scheme : String) (front : List Char) : Bool :=
  base.scheme = scheme && (front.takeWhile (isSlash true)).length < 2

/-- The URL with the given scheme. -/
def ofScheme (base : Option Url) (scheme : String) (p : Pieces) : Option Url :=
  if scheme = "file" then ofFile p
  else if isSpecialScheme scheme then
    match base.filter (fun b => continues b scheme p.front) with
    | some b => beside b p
    | none => behindSlashes scheme p (p.front.dropWhile (isSlash true))
  else
    match p.front with
    | '/' :: '/' :: rest => behindSlashes scheme p rest
    | _ => some (ofPlainScheme scheme p)

/-- The URL that a text means, possibly beside another URL. -/
def read (base : Option Url) (s : String) : Option Url :=
  let cs := stripped s
  match scheme? cs with
  | some (scheme, rest) => ofScheme base scheme (pieces rest)
  | none => base.bind fun b => beside b (pieces cs)

/-- The URL that a text means on its own. -/
def ofText? (s : String) : Option Url :=
  read none s

/-- The URL that a text means beside this one. -/
def join (base : Url) (s : String) : Option Url :=
  read (some base) s

end Url

end ChatOpening
