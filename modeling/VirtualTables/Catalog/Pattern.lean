/-!
Name patterns of SQL `LIKE`: a percent sign stands for any run of characters, an underscore for any
one, and a backslash makes the character after it stand for itself.

A pattern is compared by following all ways of reading it at once: `advance` takes the set of texts
that are left, the longest first, past one piece of the pattern.

Patterns have no size limit here. A compiled matcher has one, and a pattern beyond it, with tens of
thousands of wildcards, would be taken for an exact name; that case is left out.
-/

namespace VirtualTables

inductive PatternPiece where
  /-- Any run of characters. -/
  | run
  /-- Any one character. -/
  | one
  | exactly (character : Char)
deriving DecidableEq

namespace PatternPiece

/-- The pieces of a written pattern. A backslash at the end stands for itself. -/
def parse : List Char → List PatternPiece
  | [] => []
  | '%' :: rest => .run :: parse rest
  | '_' :: rest => .one :: parse rest
  | ['\\'] => [.exactly '\\']
  | '\\' :: character :: rest => .exactly character :: parse rest
  | character :: rest => .exactly character :: parse rest

/-- The character that a piece fixes. -/
def fixed? : PatternPiece → Option Char
  | .exactly character => some character
  | _ => none

/-- The texts that a piece can leave, given one it begins at. -/
def leaves : PatternPiece → List Char → Option (List Char)
  | .exactly expected, character :: rest => if character = expected then some rest else none
  | .one, _ :: rest => some rest
  | _, _ => none

/-- A text and all its end pieces, the longest first. -/
def tails : List Char → List (List Char)
  | [] => [[]]
  | character :: rest => (character :: rest) :: tails rest

/-- The texts that a piece can leave, given those it can begin at, the longest first. -/
def advance (piece : PatternPiece) (texts : List (List Char)) : List (List Char) :=
  match piece with
  | .run =>
      match texts with
      | [] => []
      | longest :: _ => tails longest
  | piece => texts.filterMap piece.leaves

def match? : List PatternPiece → List (List Char) → Bool
  | [], texts => texts.any List.isEmpty
  | piece :: pieces, texts => match? pieces (piece.advance texts)

end PatternPiece

inductive NamePattern where
  | any
  | exact (name : String)
  | like (pieces : List PatternPiece)
deriving DecidableEq

namespace NamePattern

/-- The filter that a pattern stands for; without one, or by `%` alone, every name passes. -/
def ofText? : Option String → NamePattern
  | none => .any
  | some text =>
      if text = "%" then .any
      else
        let pieces := PatternPiece.parse text.toList
        let literal := pieces.filterMap PatternPiece.fixed?
        if literal.length = pieces.length then .exact (String.ofList literal) else .like pieces

def accepts (pattern : NamePattern) (name : String) : Bool :=
  match pattern with
  | .any => true
  | .exact expected => expected == name
  | .like pieces => PatternPiece.match? pieces [name.toList]

end NamePattern

end VirtualTables
