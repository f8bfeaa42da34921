import VirtualTables.Text.Blank
import VirtualTables.Url.Basic
import VirtualTables.Url.Host

/-!
Reading locators, absolute ones and those relative to another.

The reader takes what browsers take: controls and spaces around the text and line breaks and tabs
inside it are dropped, in the special schemes a backslash counts as a slash, the segments `.` and
`..` are carried out, and characters that do not belong into a part are percent-encoded.
-/

namespace VirtualTables.Url

open Text

def isSlash (kind : Kind) (character : Char) : Bool :=
  character == '/' || (kind.isSpecial && character == '\\')

def isAnySlash (character : Char) : Bool :=
  character == '/' || character == '\\'

def endsPath (character : Char) : Bool :=
  character == '?' || character == '#'

/-- The text that counts: without controls and spaces around it and without line breaks and tabs
inside. -/
def significant (text : List Char) : List Char :=
  (stripBoth (·.toNat ≤ 0x20) text).filter fun character =>
    character != '\t' && character != '\n' && character != '\r'

def scheme? (text : List Char) : Option (List Char × List Char) :=
  let isLetter (character : Char) : Bool := 'a' ≤ lower character && lower character ≤ 'z'
  let belongs (character : Char) : Bool :=
    isLetter character || isDigit character || ['+', '-', '.'].contains character
  match text.head?, text.dropWhile belongs with
  | some first, ':' :: rest =>
      if isLetter first then some ((text.takeWhile belongs).map lower, rest) else none
  | _, _ => none

def queryAndFragment (kind : Kind) (text : List Char) :
    Option (List Char) × Option (List Char) :=
  let fragment (text : List Char) : Option (List Char) :=
    match text with
    | [] => none
    | _ :: fragment => some (encode encodesFragment fragment)
  match text with
  | '?' :: rest =>
      (some (encode (encodesQuery kind.isSpecial) (rest.takeWhile (· != '#'))),
        fragment (rest.dropWhile (· != '#')))
  | text => (none, fragment text)

def isDot (segment : List Char) : Bool :=
  [".", "%2e"].any fun form => sameLetters segment form.toList

def isDoubleDot (segment : List Char) : Bool :=
  ["..", ".%2e", "%2e.", "%2e%2e"].any fun form => sameLetters segment form.toList

/-- A letter and a colon, or instead of it a bar: a drive in the path of a file. -/
def isDrive (segment : List Char) : Bool :=
  match segment with
  | [letter, mark] =>
      'a' ≤ lower letter && lower letter ≤ 'z' && (mark == ':' || mark == '|')
  | _ => false

def keptSegment (kind : Kind) (segment : List Char) : List Char :=
  if kind = .file ∧ isDrive segment then segment.take 1 ++ [':'] else segment

/-- The directory above; the drive of a file's path stays. -/
def above (kind : Kind) (directory : List (List Char)) : List (List Char) :=
  match directory with
  | [only] => if kind = .file ∧ isDrive only then directory else []
  | directory => directory.dropLast

def walk (kind : Kind) : List (List Char) → List (List Char) → List (List Char)
  | directory, [] => directory
  | directory, [last] =>
      if isDoubleDot last then above kind directory ++ [[]]
      else if isDot last then directory ++ [[]]
      else directory ++ [keptSegment kind last]
  | directory, segment :: rest =>
      if isDoubleDot segment then walk kind (above kind directory) rest
      else if isDot segment then walk kind directory rest
      else walk kind (directory ++ [keptSegment kind segment]) rest

/-- The path of a file has no empty segments in front. -/
def tidy (kind : Kind) (segments : List (List Char)) : List (List Char) :=
  if kind = .file then
    let rest := segments.dropWhile List.isEmpty
    if rest.isEmpty then [[]] else rest
  else segments

/-- The path that is reached from a directory by a text without a slash in front, which ends at a
query or fragment. -/
def pathFrom (kind : Kind) (directory : List (List Char)) (text : List Char) : Path :=
  let written := splitAt (isSlash kind) (text.takeWhile (!endsPath ·))
  .segments (tidy kind (walk kind directory (written.map (encode encodesPath))))

def pathBehindAuthority (kind : Kind) (text : List Char) : Path :=
  match text with
  | [] => if kind.isSpecial then .segments [[]] else .segments []
  | first :: rest =>
      if isSlash kind first then pathFrom kind [] rest
      else if !kind.isSpecial && endsPath first then .segments []
      else pathFrom kind [] text

def endsAuthority (kind : Kind) (character : Char) : Bool :=
  isSlash kind character || endsPath character

def userText (text : List Char) : List Char :=
  let name := encode encodesUser (text.takeWhile (· != ':'))
  match text.dropWhile (· != ':') with
  | [] => name
  | _ :: password =>
      if password.isEmpty then name else name ++ ':' :: encode encodesUser password

/-- The user in front of the last `@` of an authority, and what follows it. A user that is given
as empty must be followed by a host. -/
def user? (kind : Kind) (text : List Char) : Option (List Char × List Char) :=
  let authority := text.takeWhile (!endsAuthority kind ·)
  let rest := text.dropWhile (!endsAuthority kind ·)
  match authority.reverse.dropWhile (· != '@') with
  | [] => some ([], text)
  | _ :: user =>
      let host := (authority.reverse.takeWhile (· != '@')).reverse
      if user.isEmpty && host.isEmpty && !rest.isEmpty then none
      else some (userText user.reverse, host ++ rest)

/-- The text of the host at the front, and the rest; a colon between brackets belongs to it. -/
def hostText (kind : Kind) (inBrackets : Bool) : List Char → List Char × List Char
  | [] => ([], [])
  | character :: rest =>
      if endsAuthority kind character || (character == ':' && !inBrackets) then
        ([], character :: rest)
      else
        let inBrackets :=
          if character = '[' then true else if character = ']' then false else inBrackets
        let (host, after) := hostText kind inBrackets rest
        (character :: host, after)

def port? (kind : Kind) (text : List Char) : Option (Option Nat × List Char) :=
  match text with
  | ':' :: rest =>
      let digits := rest.takeWhile isDigit
      let after := rest.dropWhile isDigit
      let port := natOfDigits digits
      let ended :=
        match after with
        | [] => true
        | next :: _ => isAnySlash next || endsPath next
      if 65535 < port || !ended then none
      else if digits.isEmpty ∨ kind = .server port then some (none, after)
      else some (some port, after)
  | text => some (none, text)

def authority? (kind : Kind) (text : List Char) : Option (Authority × List Char) := do
  let (user, text) ← user? kind text
  let (host, text) := hostText kind false text
  let written ← if kind.isSpecial then specialHost? host else plainHost? host
  if written.isEmpty ∧ (!user.isEmpty ∨ text.head? = some ':') then none
  let (port, text) ← port? kind text
  return (⟨user, written, port⟩, text)

/-- A locator from the text behind the two slashes in front of its authority. -/
def behindSlashes? (scheme : List Char) (text : List Char) : Option Url := do
  let kind := Kind.of scheme
  let (authority, text) ← authority? kind text
  let (query, fragment) := queryAndFragment kind (text.dropWhile (!endsPath ·))
  return ⟨scheme, some authority, pathBehindAuthority kind text, query, fragment⟩

def directory (url : Url) : List (List Char) :=
  match url.path with
  | .plain _ => []
  | .segments segments => segments.dropLast

def withPath (url : Url) (directory : List (List Char)) (text : List Char) : Url :=
  let (query, fragment) := queryAndFragment url.kind (text.dropWhile (!endsPath ·))
  { url with path := pathFrom url.kind directory text, query, fragment }

def withQuery (url : Url) (text : List Char) : Url :=
  let (query, fragment) := queryAndFragment url.kind text
  { url with query := if text.head? = some '?' then query else url.query, fragment }

/-- A locator of a server or of an unknown scheme, relative to another. -/
def relative? (base : Url) (text : List Char) : Option Url :=
  match text with
  | [] => some { base with fragment := none }
  | first :: rest =>
      if endsPath first then some (base.withQuery text)
      else if isAnySlash first then
        match rest with
        | [] => some (base.withPath [] rest)
        | second :: others =>
            if isAnySlash second then
              if first = '/' ∧ second = '/' then behindSlashes? base.scheme others
              else behindSlashes? base.scheme (text.dropWhile isAnySlash)
            else some (base.withPath [] rest)
      else some (base.withPath base.directory text)

/-- Whether a text begins with a drive that ends there or before a slash, query or fragment. -/
def startsWithDrive (text : List Char) : Bool :=
  isDrive (text.take 2) &&
    (match text.drop 2 with
      | [] => true
      | next :: _ => isAnySlash next || endsPath next)

def fileWithHost? (text : List Char) : Option Url := do
  let isEnd (character : Char) : Bool := isAnySlash character || endsPath character
  let host := text.takeWhile (!isEnd ·)
  let host := if isDrive host then [] else host
  let text := text.drop host.length
  let written ← if host.isEmpty then some [] else specialHost? host
  let written := if written = "localhost".toList then [] else written
  let path := pathBehindAuthority .file text
  let hasDrive := ((splitAt isAnySlash (text.takeWhile (!endsPath ·))).any isDrive)
  let (query, fragment) := queryAndFragment .file (text.dropWhile (!endsPath ·))
  return ⟨"file".toList, some ⟨[], if hasDrive then [] else written, none⟩, path, query, fragment⟩

def emptyFile : Url :=
  ⟨"file".toList, some ⟨[], [], none⟩, .segments [[]], none, none⟩

/-- The locator of a file, relative to that of another file if there is one. -/
def file? (base : Option Url) (text : List Char) : Option Url :=
  match text with
  | [] => some { base.getD emptyFile with fragment := none }
  | first :: rest =>
      if isAnySlash first then
        match rest with
        | [] => some ((base.getD emptyFile).withPath (drive base) rest)
        | second :: others =>
            if isAnySlash second then fileWithHost? others
            else if startsWithDrive rest then some (emptyFile.withPath [] rest)
            else some ((base.getD emptyFile).withPath (drive base) rest)
      else
        match base with
        | none => some (emptyFile.withPath [] text)
        | some base =>
            if endsPath first then some (base.withQuery text)
            else if startsWithDrive text then some (emptyFile.withPath [] text)
            else some (base.withPath base.directory text)
where
  drive (base : Option Url) : List (List Char) :=
    match base with
    | some ⟨_, _, .segments (first :: _), _, _⟩ => if isDrive first then [first] else []
    | _ => []

def other? (scheme : List Char) (text : List Char) : Option Url :=
  let (query, fragment) := queryAndFragment .other (text.dropWhile (!endsPath ·))
  match text with
  | '/' :: '/' :: rest => behindSlashes? scheme rest
  | '/' :: rest => some ⟨scheme, none, pathFrom .other [] rest, query, fragment⟩
  | text =>
      let path := encode encodesControls (text.takeWhile (!endsPath ·))
      some ⟨scheme, none, .plain path, query, fragment⟩

def read? (base : Option Url) (text : List Char) : Option Url :=
  let text := significant text
  match scheme? text with
  | some (scheme, rest) =>
      match Kind.of scheme with
      | .file => file? (base.filter fun base => base.scheme == scheme) rest
      | .server _ =>
          let slashes := (rest.takeWhile isAnySlash).length
          match base.filter fun base => base.scheme == scheme with
          | some base =>
              if slashes < 2 then relative? base rest
              else behindSlashes? scheme (rest.dropWhile isAnySlash)
          | none => behindSlashes? scheme (rest.dropWhile isAnySlash)
      | .other => other? scheme rest
  | none =>
      match base with
      | none => none
      | some base =>
          match text, base.path with
          | '#' :: _, _ => some (base.withQuery text)
          | _, .plain _ => none
          | text, .segments _ =>
              if base.kind = .file then file? (some base) text else relative? base text

def ofText? (text : List Char) : Option Url :=
  read? none text

def join? (base : Url) (text : List Char) : Option Url :=
  read? (some base) text

/-- The origin of a locator; that of a `blob` is the origin of the locator in its path. -/
def originWithin : (depth : Nat) → Url → Option Origin
  | 0, _ => none
  | depth + 1, url =>
      if url.scheme = "blob".toList then (ofText? url.path.text).bind (originWithin depth)
      else url.origin?

def originOf? (text : List Char) : Option Origin :=
  (ofText? text).bind fun url => originWithin (text.length + 1) url

def sameOrigin (left right : List Char) : Bool :=
  match originOf? left, originOf? right with
  | some left, some right => left == right
  | _, _ => false

theorem sameOrigin_iff {left right : List Char} :
    sameOrigin left right = true ↔
      ∃ origin, originOf? left = some origin ∧ originOf? right = some origin := by
  unfold sameOrigin
  constructor
  · intro same
    split at same
    · next left right found foundRight =>
        obtain rfl : left = right := eq_of_beq same
        exact ⟨left, found, foundRight⟩
    · cases same
  · rintro ⟨origin, found, foundRight⟩
    rw [found, foundRight]
    exact beq_self_eq_true origin

end VirtualTables.Url
