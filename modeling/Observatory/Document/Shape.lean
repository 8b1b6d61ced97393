import Observatory.Calendar.Zoned
import Observatory.Document.Basic
import Observatory.Text.Base64

/-! # Shapes of documents

A shape says of which type a document has to be, down to its innermost members. A record ignores members
that it does not know, all of its own members may be missing, and a null is the same as a missing member.
Of a repeated member the last one counts. In lists and maps a null is a value like any other.

Schemas contain schemas, so their shape is a constructor of its own and not a record.
-/

namespace Observatory.Document

inductive Shape where
  | any
  | text
  /-- This text and nothing else, not even null. -/
  | exactly (text : String)
  | bool
  | int32
  | int64
  | number
  | time
  /-- Bytes in base64, null for none. -/
  | bytes
  | int32OrText
  | list (item : Shape)
  | map (value : Shape)
  | record (fields : List (String × Shape))
  | schema
  | schemaOrBool
  | schemaOrList
  | schemaOrTexts

/-- A whole number without fraction or exponent, possibly negative. Zero has no sign. -/
def integer? : Document → Option Int
  | .number ('-' :: digits) =>
      (Document.number digits).nat?.bind fun n => if n = 0 then none else some (-(n : Int))
  | document => document.nat?.map fun n => (n : Int)

/-- A whole number with so many bits, the sign among them. -/
def isSigned (bits : Nat) (document : Document) : Bool :=
  let half : Int := (1 <<< (bits - 1) : Nat)
  match document.integer? with
  | some n => -half ≤ n && n < half
  | none => false

def isNull : Document → Bool
  | .null => true
  | _ => false

/-- The name occurs among the members. -/
def isNamed (name : Option String) (members : List (Option String × Document)) : Bool :=
  members.any (·.1 == name)

namespace Shape

/-- Fields of one shape. -/
def fields (shape : Shape) (names : List String) : List (String × Shape) :=
  names.map (·, shape)

/-- A null stands for a missing member of this shape. -/
def isNullable : Shape → Bool
  | .exactly _ => false
  | _ => true

/-- The members of a schema. -/
def schemaFields : List (String × Shape) :=
  fields .text
    ["$ref", "$schema", "description", "format", "id", "pattern", "title", "type",
      "x-kubernetes-list-type", "x-kubernetes-map-type"] ++
  fields .bool
    ["exclusiveMaximum", "exclusiveMinimum", "nullable", "uniqueItems",
      "x-kubernetes-embedded-resource", "x-kubernetes-int-or-string",
      "x-kubernetes-preserve-unknown-fields"] ++
  fields .int64
    ["maxItems", "maxLength", "maxProperties", "minItems", "minLength", "minProperties"] ++
  fields .number ["maximum", "minimum", "multipleOf"] ++
  fields (.list .text) ["required", "x-kubernetes-list-map-keys"] ++
  fields .any ["default", "example"] ++
  fields .schemaOrBool ["additionalItems", "additionalProperties"] ++
  fields (.list .schema) ["allOf", "anyOf", "oneOf"] ++
  fields (.map .schema) ["definitions", "patternProperties", "properties"] ++
  [("dependencies", .map .schemaOrTexts),
    ("enum", .list .any),
    ("externalDocs", .record (fields .text ["description", "url"])),
    ("items", .schemaOrList),
    ("not", .schema),
    ("x-kubernetes-validations", .list (.record
      (("optionalOldSelf", .bool) ::
        fields .text ["fieldPath", "message", "messageExpression", "reason", "rule"])))]

mutual

/-- The document has this shape. -/
def fits : Shape → Document → Bool
  | .any, _ => true
  | .text, .string value => value.isSome
  | .exactly expected, .string value => value == some expected
  | .bool, .bool _ => true
  | .int32, document => document.isSigned 32
  | .int64, document => document.isSigned 64
  | .number, .number _ => true
  | .time, .string (some value) => (Calendar.ZonedTimestamp.read? value.toList).isSome
  | .bytes, .string (some value) => (Text.decodeBase64? value.toList).isSome
  | .bytes, .null => true
  | .int32OrText, .string value => value.isSome
  | .int32OrText, document => document.isSigned 32
  | .list item, .array items => item.fitsItems items
  | .map value, .object members => value.fitsValues members
  | .record fields, .object members => fitsFields fields members
  | .schema, .object members => fitsFields schemaFields members
  | .schemaOrBool, .bool _ => true
  | .schemaOrBool, .object members => fitsFields schemaFields members
  | .schemaOrList, .array items => schema.fitsItems items
  | .schemaOrList, .object members => fitsFields schemaFields members
  | .schemaOrTexts, .array items => text.fitsItems items
  | .schemaOrTexts, .object members => fitsFields schemaFields members
  | _, _ => false

/-- Every item has this shape. -/
def fitsItems : Shape → List Document → Bool
  | _, [] => true
  | shape, item :: rest => shape.fits item && shape.fitsItems rest

/-- Every value of a map has this shape. -/
def fitsValues : Shape → List (Option String × Document) → Bool
  | _, [] => true
  | shape, (name, value) :: rest =>
      name.isSome && (isNamed name rest || shape.fits value) && shape.fitsValues rest

/-- Every member that is a field has the shape of the field. -/
def fitsFields : List (String × Shape) → List (Option String × Document) → Bool
  | _, [] => true
  | fields, (name, value) :: rest =>
      name.isSome &&
        (match name.bind (fields.lookup ·) with
          | some shape =>
              isNamed name rest || (value.isNull && shape.isNullable) || shape.fits value
          | none => true) &&
        fitsFields fields rest

end

end Shape

end Observatory.Document
