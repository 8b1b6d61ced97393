import Observatory.Document.Token

/-! # Reading a document

Tokens are put together by a machine with a stack of unfinished arrays and objects, so nesting of any
depth needs no more than a longer stack. Bytes, tokens and values are handled in one pass.
-/

namespace Observatory.Document

/-- An array or object that has begun, its contents so far in reverse. -/
inductive Frame where
  | array (items : List Document)
  | object (members : List (Option String × Document))
  | member (members : List (Option String × Document)) (name : Option String)
deriving Repr

/-- What may come next. -/
inductive Expectation where
  | value
  | itemOrClose
  | nameOrClose
  | name
  | colon
  | separator
  | nothing (result : Document)
deriving Repr

structure Reader where
  lexeme : Lexeme
  stack : List Frame
  expectation : Expectation
deriving Repr

namespace Reader

def initial : Reader := ⟨.gap, [], .value⟩

/-- A value is complete: it joins the innermost unfinished container, or it is the result. -/
def complete (stack : List Frame) (value : Document) : Option (List Frame × Expectation) :=
  match stack with
  | [] => some ([], .nothing value)
  | .array items :: rest => some (.array (value :: items) :: rest, .separator)
  | .member members name :: rest => some (.object ((name, value) :: members) :: rest, .separator)
  | .object _ :: _ => none

/-- A token where a value has to stand. -/
def beginValue (stack : List Frame) : Token → Option (List Frame × Expectation)
  | .scalar value => complete stack value
  | .string text => complete stack (.string text)
  | .arrayOpen => some (.array [] :: stack, .itemOrClose)
  | .objectOpen => some (.object [] :: stack, .nameOrClose)
  | _ => none

def closeArray : List Frame → Option (List Frame × Expectation)
  | .array items :: rest => complete rest (.array items.reverse)
  | _ => none

def closeObject : List Frame → Option (List Frame × Expectation)
  | .object members :: rest => complete rest (.object members.reverse)
  | _ => none

/-- A token where a member's name has to stand. -/
def beginMember : List Frame → Token → Option (List Frame × Expectation)
  | .object members :: rest, .string name => some (.member members name :: rest, .colon)
  | _, _ => none

def step (stack : List Frame) : Expectation → Token → Option (List Frame × Expectation)
  | .value, token => beginValue stack token
  | .itemOrClose, .arrayClose => closeArray stack
  | .itemOrClose, token => beginValue stack token
  | .nameOrClose, .objectClose => closeObject stack
  | .nameOrClose, token => beginMember stack token
  | .name, token => beginMember stack token
  | .colon, .colon => some (stack, .value)
  | .colon, _ => none
  | .separator, .arrayClose => closeArray stack
  | .separator, .objectClose => closeObject stack
  | .separator, .comma =>
      match stack with
      | .array _ :: _ => some (stack, .value)
      | .object _ :: _ => some (stack, .name)
      | _ => none
  | .separator, _ => none
  | .nothing _, _ => none

/-- Some tokens in order. -/
def run : List Frame × Expectation → List Token → Option (List Frame × Expectation)
  | state, [] => some state
  | (stack, expectation), token :: rest =>
      match step stack expectation token with
      | some next => run next rest
      | none => none

/-- One byte. -/
def feed? (reader : Reader) (byte : UInt8) : Option Reader := do
  let (tokens, lexeme) ← reader.lexeme.step? byte
  let (stack, expectation) ← run (reader.stack, reader.expectation) tokens
  return ⟨lexeme, stack, expectation⟩

/-- The document that the bytes so far stand for. -/
def finish? (reader : Reader) : Option Document := do
  let tokens ← reader.lexeme.finish?
  match ← run (reader.stack, reader.expectation) tokens with
  | ([], .nothing result) => some result
  | _ => none

def readAll? : Reader → List UInt8 → Option Document
  | reader, [] => reader.finish?
  | reader, byte :: rest =>
      match reader.feed? byte with
      | some next => readAll? next rest
      | none => none

end Reader

/-- The document these bytes are, with nothing but white space around it. -/
def read? (bytes : List UInt8) : Option Document :=
  Reader.initial.readAll? bytes

end Observatory.Document
