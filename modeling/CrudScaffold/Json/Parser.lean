import CrudScaffold.Json.Token

/-!
# From tokens to trees

One pass over the tokens with the open arrays and objects on a stack. Where a token does not
fit, every open array and object is closed with the fault.
-/

namespace CrudScaffold.Json

/-- An array or object that is still open, with what it holds so far in reverse. -/
inductive Frame
  | array (items : List Tree)
  | object (members : List (StringLiteral × Tree)) (key : StringLiteral)
deriving Repr

/-- What is expected next. -/
inductive Expectation
  /-- A value. -/
  | value
  /-- The first item of an array, or its end. -/
  | item
  /-- A key of the object with the given members, or its end if there is none yet. -/
  | key (members : List (StringLiteral × Tree))
  /-- The colon behind a key. -/
  | colon (members : List (StringLiteral × Tree)) (key : StringLiteral)
  /-- What follows a complete value. -/
  | next (value : Tree)
deriving Repr

/-- The kind of value that a token begins, as far as the token tells. -/
def Token.lead : Token → Tree
  | .openArray => .array [] none
  | .openObject => .object [] none
  | .null => .null
  | .bool b => .bool b
  | .number n fault => .number n fault
  | .string s => .string s
  | .word f => .word f
  | _ => .absent .malformed

/-- Closes all open arrays and objects with a fault, the innermost around the given tree. -/
def breakOff (fault : Fault) : List Frame → Tree → Tree
  | [], t => t
  | .array items :: frames, t => breakOff fault frames (.array (t :: items).reverse (some fault))
  | .object members key :: frames, t =>
    breakOff fault frames (.object ((key, t) :: members).reverse (some fault))

/-- Closes everything where the given expectation is not met. A key that is due behind a comma
counts as a broken member, so that the comma is not lost. -/
def stop (fault : Fault) (frames : List Frame) : Expectation → Tree
  | .value | .item => breakOff fault frames (.absent fault)
  | .key [] => breakOff fault frames (.object [] (some fault))
  | .key members =>
    let due := (⟨[], some fault⟩, .absent fault)
    breakOff fault frames (.object (due :: members).reverse (some fault))
  | .colon members key =>
    breakOff fault frames (.object ((key, .absent fault) :: members).reverse (some fault))
  | .next value => breakOff fault frames value

/-- Reads a document from its tokens. -/
def build : List Frame → Expectation → List Token → Document
  | [], .next value, rest => ⟨value, !rest.isEmpty⟩
  | frames, expected, [] => ⟨stop .unfinished frames expected, false⟩
  | frames, .value, token :: rest =>
    match token with
    | .openArray => build (.array [] :: frames) .item rest
    | .openObject => build frames (.key []) rest
    | token => build frames (.next token.lead) rest
  | frames, .item, token :: rest =>
    match token, frames with
    | .closeArray, .array [] :: frames => build frames (.next (.array [] none)) rest
    | .openArray, frames => build (.array [] :: frames) .item rest
    | .openObject, frames => build frames (.key []) rest
    | token, frames => build frames (.next token.lead) rest
  | frames, .key members, token :: rest =>
    match token, members with
    | .string s, members => build frames (.colon members s) rest
    | .closeObject, [] => build frames (.next (.object [] none)) rest
    | token, [] => ⟨breakOff .malformed frames (.keyless token.lead), false⟩
    | _, members => ⟨stop .malformed frames (.key members), false⟩
  | frames, .colon members key, token :: rest =>
    match token with
    | .colon => build (.object members key :: frames) .value rest
    | _ => ⟨stop .malformed frames (.colon members key), false⟩
  | .array items :: frames, .next value, token :: rest =>
    match token with
    | .comma => build (.array (value :: items) :: frames) .value rest
    | .closeArray => build frames (.next (.array (value :: items).reverse none)) rest
    | _ => ⟨breakOff .malformed frames (.array (value :: items).reverse (some .malformed)), false⟩
  | .object members key :: frames, .next value, token :: rest =>
    match token with
    | .comma => build frames (.key ((key, value) :: members)) rest
    | .closeObject => build frames (.next (.object ((key, value) :: members).reverse none)) rest
    | _ =>
      let broken := .object ((key, value) :: members).reverse (some .malformed)
      ⟨breakOff .malformed frames broken, false⟩

/-- The document that a text holds. -/
def parse (s : String) : Document := build [] .value (tokens s)

end CrudScaffold.Json
