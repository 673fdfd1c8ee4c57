/-!
# The fields of messages

The messages that a request and a response are made of, with the number and the type of each
field. Only a few of these fields are read for code generation, but a request in which any of
them is malformed is refused.
-/

namespace GoStubs.Wire

/-- A type of message. -/
inductive Kind where
  | request
  | version
  | file
  | message
  | enumeration
  | service
  | field
  | fileOptions
  | sourceInfo
  | extensionRange
  | messageOptions
  | oneof
  | reservedRange
  | enumValue
  | enumOptions
  | enumReservedRange
  | method
  | serviceOptions
  | fieldOptions
  | uninterpretedOption
  | location
  | extensionRangeOptions
  | oneofOptions
  | enumValueOptions
  | methodOptions
  | namePart
  | response
  | outputFile
  deriving DecidableEq, Repr

/-- The type of a field that holds no message. -/
inductive ScalarType where
  /-- A number, a truth value or a member of an enumeration. -/
  | number
  /-- Repeated numbers, one by one or packed. -/
  | numbers
  /-- A floating-point number of eight bytes. -/
  | double
  | bytes
  | text
  deriving DecidableEq, Repr

/-- The type of a field. -/
inductive FieldType where
  /-- A field that holds no message. -/
  | scalar (type : ScalarType)
  /-- A field that holds a message. -/
  | message (kind : Kind)
  deriving DecidableEq, Repr

namespace FieldType

/-- A number, a truth value or a member of an enumeration. -/
abbrev number : FieldType := scalar .number

/-- Repeated numbers. -/
abbrev numbers : FieldType := scalar .numbers

/-- A floating-point number. -/
abbrev double : FieldType := scalar .double

/-- Bytes. -/
abbrev bytes : FieldType := scalar .bytes

/-- A text. -/
abbrev text : FieldType := scalar .text

end FieldType

/-- The fields of a message, each with its number. -/
def Kind.fields : Kind → List (Nat × FieldType)
  | request => [(1, .text), (2, .text), (3, .message version), (15, .message file)]
  | version => [(1, .number), (2, .number), (3, .number), (4, .text)]
  | file =>
    [(1, .text), (2, .text), (3, .text), (4, .message message), (5, .message enumeration),
     (6, .message service), (7, .message field), (8, .message fileOptions),
     (9, .message sourceInfo), (10, .numbers), (11, .numbers), (12, .text)]
  | message =>
    [(1, .text), (2, .message field), (3, .message message), (4, .message enumeration),
     (5, .message extensionRange), (6, .message field), (7, .message messageOptions),
     (8, .message oneof), (9, .message reservedRange), (10, .text)]
  | enumeration =>
    [(1, .text), (2, .message enumValue), (3, .message enumOptions),
     (4, .message enumReservedRange), (5, .text)]
  | service => [(1, .text), (2, .message method), (3, .message serviceOptions)]
  | field =>
    [(1, .text), (2, .text), (3, .number), (4, .number), (5, .number), (6, .text), (7, .text),
     (8, .message fieldOptions), (9, .number), (10, .text), (17, .number)]
  | fileOptions =>
    [(1, .text), (8, .text), (9, .number), (10, .number), (11, .text), (16, .number),
     (17, .number), (18, .number), (20, .number), (23, .number), (27, .number), (31, .number),
     (36, .text), (37, .text), (39, .text), (40, .text), (41, .text), (42, .number), (44, .text),
     (45, .text), (999, .message uninterpretedOption)]
  | sourceInfo => [(1, .message location)]
  | extensionRange => [(1, .number), (2, .number), (3, .message extensionRangeOptions)]
  | messageOptions =>
    [(1, .number), (2, .number), (3, .number), (7, .number), (999, .message uninterpretedOption)]
  | oneof => [(1, .text), (2, .message oneofOptions)]
  | reservedRange => [(1, .number), (2, .number)]
  | enumValue => [(1, .text), (2, .number), (3, .message enumValueOptions)]
  | enumOptions => [(2, .number), (3, .number), (999, .message uninterpretedOption)]
  | enumReservedRange => [(1, .number), (2, .number)]
  | method =>
    [(1, .text), (2, .text), (3, .text), (4, .message methodOptions), (5, .number), (6, .number)]
  | serviceOptions => [(33, .number), (999, .message uninterpretedOption)]
  | fieldOptions =>
    [(1, .number), (2, .number), (3, .number), (5, .number), (6, .number), (10, .number),
     (999, .message uninterpretedOption)]
  | uninterpretedOption =>
    [(2, .message namePart), (3, .text), (4, .number), (5, .number), (6, .double), (7, .bytes),
     (8, .text)]
  | location => [(1, .numbers), (2, .numbers), (3, .text), (4, .text), (6, .text)]
  | extensionRangeOptions => [(999, .message uninterpretedOption)]
  | oneofOptions => [(999, .message uninterpretedOption)]
  | enumValueOptions => [(1, .number), (999, .message uninterpretedOption)]
  | methodOptions => [(33, .number), (34, .number), (999, .message uninterpretedOption)]
  | namePart => [(1, .text), (2, .number)]
  | response => [(1, .text), (2, .number), (15, .message outputFile)]
  | outputFile => [(1, .text), (2, .text), (15, .text)]

/-- The type of the field with a given number, if the message has such a field. -/
def Kind.field? (kind : Kind) (number : Nat) : Option FieldType :=
  (kind.fields.find? (·.1 = number)).map (·.2)

end GoStubs.Wire
