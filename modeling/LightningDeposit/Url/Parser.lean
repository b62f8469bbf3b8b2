import LightningDeposit.Text.Blank
import LightningDeposit.Url.Host

/-!
Reading addresses, and putting a path of one's own in place of an address's path. Outer controls
and spaces and all tabs and line ends vanish; where one vanishes right after the drive of a local
path, it still parts the drive from what follows.
-/

namespace LightningDeposit.Url

/-- A text without the controls and spaces around it. -/
def trimmed (s : String) : List Char :=
  Text.strip (fun c => decide (c.toNat ≤ 0x20)) s.toList

/-- Characters that have no meaning within an address. -/
def vanishes (c : Char) : Bool :=
  c == '\t' || c == '\n' || c == '\r'

def withoutVanishing (s : List Char) : List Char :=
  s.filter fun c => !vanishes c

/-- What is left of a text when the characters that have no meaning in addresses are gone. -/
def clean (s : String) : List Char :=
  withoutVanishing (trimmed s)

/-- Splits before the first character `c`; the second part is absent without one. -/
def cutAt (c : Char) (s : List Char) : List Char × Option (List Char) :=
  match s.dropWhile (· != c) with
  | [] => (s, none)
  | _ :: rest => (s.takeWhile (· != c), some rest)

def isSchemeChar (c : Char) : Bool :=
  c.isAlphanum || c == '+' || c == '-' || c == '.'

/-- The scheme in lower case, and what follows its colon. -/
def takeScheme? (s : List Char) : Option (String × List Char) :=
  match s with
  | first :: _ =>
    if first.isAlpha then
      match s.dropWhile isSchemeChar with
      | ':' :: rest => some (String.ofList ((s.takeWhile isSchemeChar).map Char.toLower), rest)
      | _ => none
    else none
  | [] => none

def isSlash (special : Bool) (c : Char) : Bool :=
  c == '/' || (special && c == '\\')

def isSingleDot (segment : String) : Bool :=
  [".", "%2e", "%2E"].contains segment

def isDoubleDot (segment : String) : Bool :=
  ["..", ".%2e", ".%2E", "%2e.", "%2E.", "%2e%2e", "%2e%2E", "%2E%2e", "%2E%2E"].contains segment

/-- A letter, and a colon or a bar in its place. -/
def startsWithDrive : List Char → Bool
  | letter :: mark :: _ => letter.isAlpha && (mark == ':' || mark == '|')
  | _ => false

def isDrive (segment : String) : Bool :=
  startsWithDrive segment.toList && segment.length == 2

/-- A drive, or one with a backslash after it, is not left by going up. -/
def isAnchored (segment : String) : Bool :=
  isDrive segment || (startsWithDrive segment.toList && segment.toList[2]? == some '\\')

/-- One step up from the last of the segments. -/
def goUp (segments : List String) : List String :=
  if segments.getLast?.any isAnchored then segments else segments.dropLast

/-- Walks down the segments of a path. A double dot goes up one step and a single dot stays; at the
end either leaves an empty segment. -/
def walk (segments : List String) : List String → List String
  | [] => segments
  | [last] =>
    if isDoubleDot last then goUp segments ++ [""]
    else if isSingleDot last then segments ++ [""]
    else segments ++ [last]
  | segment :: rest =>
    if isDoubleDot segment then walk (goUp segments) rest
    else if isSingleDot segment then walk segments rest
    else walk (segments ++ [segment]) rest

/-- The segments of what follows the first slash of a path. -/
def pathSegments (special : Bool) (s : List Char) : List String :=
  walk [] ((splitOn (isSlash special) s).map (escape needsPathEscape))

def queryText (special : Bool) (s : List Char) : String :=
  escape (needsQueryEscape special) s

def fragmentText (s : List Char) : String :=
  escape needsFragmentEscape s

/-- User name and password, before and after the first colon. -/
def credentials (s : List Char) : String × String :=
  let (user, password) := cutAt ':' s
  (escape needsUserEscape user, escape needsUserEscape (password.getD []))

/-- Splits before the last at sign; the first part is absent without one. -/
def cutUser (s : List Char) : Option (List Char) × List Char :=
  let host := (s.reverse.takeWhile (· != '@')).reverse
  if host.length = s.length then (none, s) else (some (s.take (s.length - host.length - 1)), host)

/-- The host ends at the first colon outside of brackets. -/
def cutPort (inside : Bool) : List Char → List Char × Option (List Char)
  | [] => ([], none)
  | c :: rest =>
    if c = ':' ∧ inside = false then ([], some rest)
    else
      let (host, port) := cutPort (if c = '[' then true else if c = ']' then false else inside) rest
      (c :: host, port)

/-- A port of sixteen bits; the usual one of the scheme is left out, as is an empty one. -/
def parsePort (scheme : String) (s : List Char) : Except UrlError (Option Nat) :=
  if s = [] then .ok none
  else if s.all Char.isDigit ∧ Nat.ofDigitChars 10 s 0 < 65536 then
    let port := Nat.ofDigitChars 10 s 0
    .ok (if defaultPort scheme = some port then none else some port)
  else .error .invalidPort

/-- The part between the slashes and the path: user name and password, host and port. -/
structure Authority where
  username : String
  password : String
  host : Host
  port : Option Nat

/-- Reads an authority, and gives back what comes after a backslash that ends its port, with the
backslash. A user needs a host; `isLast` says that nothing follows the authority, where an at sign
alone passes for no user. -/
def parseAuthority (scheme : String) (isLast : Bool) (s : List Char) :
    Except UrlError (Authority × List Char) := do
  let special := isSpecial scheme
  let (user, place) := cutUser s
  let (username, password) := credentials (user.getD [])
  let (host, port) := cutPort false place
  let hasUser := username ≠ "" ∨ password ≠ "" ∨ (user = some [] ∧ ¬isLast)
  if host = [] ∧ (special ∨ port.isSome ∨ hasUser) then
    throw .emptyHost
  let found ← if host = [] then pure (Host.name "") else parseHost special host
  let digits := port.getD []
  let number ← parsePort scheme (digits.takeWhile (· != '\\'))
  return (⟨username, password, found, number⟩, digits.dropWhile (· != '\\'))

/-- The path after an authority: always rooted for a special scheme, else possibly empty. -/
def pathAfterHost (special : Bool) (s : List Char) : UrlPath :=
  match s with
  | [] => .segments (if special then [""] else [])
  | c :: rest =>
    .segments (pathSegments special (if isSlash special c then rest else c :: rest))

def segmentText (s : List Char) : String :=
  escape needsPathEscape (withoutVanishing s)

/-- A drive with a colon and what stands below it in one segment, if a vanishing character parts
them. -/
def partedDrive? (segment : List Char) : Option (List Char × List Char) :=
  match segment.dropWhile vanishes with
  | letter :: rest =>
    match rest.dropWhile vanishes with
    | ':' :: gap :: below =>
      if letter.isAlpha && vanishes gap && withoutVanishing below ≠ [] then
        some ([letter, ':'], below)
      else none
    | _ => none
  | [] => none

/-- Nothing is parted where nothing vanishes. -/
theorem partedDrive?_eq_none {segment : List Char} (h : ∀ c ∈ segment, vanishes c = false) :
    partedDrive? segment = none := by
  have keep (s : List Char) (hs : ∀ c ∈ s, vanishes c = false) : s.dropWhile vanishes = s := by
    cases s with
    | nil => rfl
    | cons c rest => simp [hs c List.mem_cons_self]
  unfold partedDrive?
  rw [keep segment h]
  cases segment with
  | nil => rfl
  | cons letter rest =>
    have hrest : ∀ c ∈ rest, vanishes c = false := fun c hc => h c (List.mem_cons_of_mem _ hc)
    simp only [keep rest hrest]
    split
    · rename_i gap below
      simp [hrest gap (by simp)]
    · rfl

/-- Walks down the segments of a local path. At the root a drive is written with a colon, and is the
place of the path whatever host was named; the second part says whether there was one. Below a drive
that is parted from its segment stands the rest of the segment as it is, and the host stays. -/
def walkLocal (segments : List String) : List (List Char) → List String × Bool
  | [] => (segments, false)
  | written :: rest =>
    let segment := segmentText written
    match if segments = [] then partedDrive? written else none with
    | some (drive, below) =>
      (walk [String.ofList drive, segmentText below] (rest.map segmentText), false)
    | none =>
      if segments = [] ∧ isDrive segment then
        (walk [String.ofList (segment.toList.take 1 ++ [':'])] (rest.map segmentText), true)
      else if isDoubleDot segment then
        if rest = [] then (goUp segments ++ [""], false) else walkLocal (goUp segments) rest
      else if isSingleDot segment then
        if rest = [] then (segments ++ [""], false) else walkLocal segments rest
      else walkLocal (segments ++ [segment]) rest

/-- The path of a local address, from a text that begins below the root. Empty segments at the root
are passed over. -/
def localPath (s : List Char) : UrlPath × Bool :=
  let (segments, hasDrive) := walkLocal [] (splitOn (isSlash true) s)
  match segments.dropWhile (· == "") with
  | [] => (.segments [""], hasDrive)
  | rooted => (.segments rooted, hasDrive)

/-- What follows a slash at the start of a text. -/
def afterSlash? (s : List Char) : Option (List Char) :=
  match s.dropWhile vanishes with
  | c :: rest => if isSlash true c then some rest else none
  | [] => none

/-- The host and the path of what follows the two slashes of a local address: no host for this
machine or where a drive stands. -/
def parseLocalHost (s : List Char) : Except UrlError (Host × UrlPath) := do
  let written := s.takeWhile fun c => !isSlash true c
  let name := withoutVanishing written
  let after := s.drop written.length
  if name = [] ∨ isDrive (String.ofList name) then
    return (.name "", (localPath s).1)
  let host ← parseHost true name
  if host = .name "localhost" then
    return (.name "", (localPath after).1)
  let (path, hasDrive) := localPath (after.drop 1)
  return (if hasDrive then .name "" else host, path)

/-- A local address: a host only between two slashes and the next. -/
def parseLocal (s : List Char) : Except UrlError (Host × UrlPath) :=
  match afterSlash? s with
  | none => .ok (.name "", (localPath s).1)
  | some below =>
    match afterSlash? below with
    | none => .ok (.name "", (localPath below).1)
    | some place => parseLocalHost place

/-- What follows the colon of a scheme up to a query or fragment, with what vanishes. -/
def writtenBody (s : String) : List Char :=
  ((cutAt ':' (cutAt '?' (cutAt '#' (trimmed s)).1).1).2).getD []

/-- Reads an absolute address. -/
def parse (s : String) : Except UrlError Url := do
  let (front, fragment) := cutAt '#' (clean s)
  let (body, query) := cutAt '?' front
  match takeScheme? body with
  | none => throw .relativeWithoutBase
  | some (scheme, rest) =>
    let special := isSpecial scheme
    let queried := query.map (queryText special)
    let marked := fragment.map fragmentText
    if scheme = "file" then
      let (host, path) ← parseLocal (writtenBody s)
      return ⟨scheme, "", "", some host, none, path, queried, marked⟩
    let afterSlashes :=
      if special then some (rest.dropWhile (isSlash true))
      else
        match rest with
        | '/' :: '/' :: after => some after
        | _ => none
    match afterSlashes with
    | some after =>
      let place := after.takeWhile fun c => !isSlash special c
      let below := after.dropWhile fun c => !isSlash special c
      let isLast := below = [] ∧ query.isNone ∧ fragment.isNone
      let (authority, rest) ← parseAuthority scheme isLast place
      return ⟨scheme, authority.username, authority.password, some authority.host, authority.port,
        pathAfterHost special (rest ++ below), queried, marked⟩
    | none =>
      let path :=
        match rest with
        | '/' :: after => UrlPath.segments (pathSegments special after)
        | _ => .text (escape needsControlEscape rest)
      return ⟨scheme, "", "", none, none, path, queried, marked⟩

/-- The address of a rooted path on the same host. What the path holds may bring in a query and a
fragment, and steps up and down as any path does; an address whose path is a mere text has no
root. -/
def join (base : Url) (path : String) : Except UrlError Url :=
  match base.path with
  | .text _ => .error .noBasePath
  | .segments _ =>
    let special := isSpecial base.scheme
    let (front, fragment) := cutAt '#' (clean path)
    let (body, query) := cutAt '?' front
    .ok { base with
      path := .segments (pathSegments special (body.drop 1))
      query := query.map (queryText special)
      fragment := fragment.map fragmentText }

/-- An address below another one stays with its scheme, user, host and port. -/
theorem join_keeps_authority {base url : Url} {path : String} (h : base.join path = .ok url) :
    url.scheme = base.scheme ∧ url.username = base.username ∧ url.password = base.password ∧
      url.host = base.host ∧ url.port = base.port := by
  unfold join at h
  split at h
  · cases h
  · cases h
    exact ⟨rfl, rfl, rfl, rfl, rfl⟩

end LightningDeposit.Url
