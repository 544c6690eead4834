import DocClient.Value.Text
import DocClient.Text.Utf8
/-!
Failures the client reports: a `ClientError` of the service, with kind, message, code,
status, document and operation, and the failures of plain values.
-/
namespace DocClient

/-- What kind of service failure occurred. -/
inductive ClientErrorKind where
  /-- The server could not be reached, or the connection broke. -/
  | transport
  /-- The document or endpoint does not exist. -/
  | notFound
  /-- A revision did not match on write or delete. -/
  | conflict
  /-- A body did not have the expected shape. -/
  | decode
  /-- The server reported a failure. -/
  | server
  /-- A change record was malformed, or a feed stopped inside a record. -/
  | stream
  deriving DecidableEq, Repr

/-- The class name of a kind. -/
def ClientErrorKind.className : ClientErrorKind → String
  | .transport => "TransportError"
  | .notFound => "NotFoundError"
  | .conflict => "ConflictError"
  | .decode => "DecodeError"
  | .server => "ServerError"
  | .stream => "StreamError"

/-- A service failure; a server's reason can be any value. -/
structure ClientError where
  kind : ClientErrorKind
  message : Value
  code : Value := .null
  status : Value := .null
  docId : Value := .null
  operation : Value := .null
  line : Value := .null
  deriving DecidableEq

namespace ClientError

/-- The parts of the text before the message: operation, document and status. -/
def prefixParts (e : ClientError) : List Value :=
  (if e.operation.truthy then [e.operation] else []) ++
  (if e.docId.truthy then [e.docId] else []) ++
  (if e.status matches .null then [] else [.str e.status.text])

/-- Join texts with spaces; a part that is not a text is refused with its index. -/
def joinParts : Nat → List Value → Except String (List Text)
  | _, [] => .ok []
  | i, .str s :: rest => do
    let r ← joinParts (i + 1) rest
    pure (s :: r)
  | i, .updateMode m :: rest => do
    let r ← joinParts (i + 1) rest
    pure (Text.ofString m.text :: r)
  | i, v :: _ => .error s!"sequence item {i}: expected str instance, {v.typeName} found"

/-- The text of a failure, `prefix: message`; a message that is not a text has none. -/
def text (e : ClientError) : Except String Text := do
  let parts ← joinParts 0 e.prefixParts
  let pre := Text.intercalate " " parts
  if pre.isEmpty then
    match e.message with
    | .str m => pure m
    | m => throw s!"__str__ returned non-string (type {m.typeName})"
  else pure (pre ++ Text.ofString ": " ++ e.message.text)

end ClientError

/-- One complaint of schema validation: its type and the path to the value. -/
structure Issue where
  kind : String
  path : List String
  deriving DecidableEq

/-- A document that does not fit its schema, with its complaints in field order. -/
structure Invalid where
  schema : String
  issues : List Issue
  deriving DecidableEq

/-- The text of a validation failure. -/
def Invalid.text (v : Invalid) : String :=
  "ValidationError(" ++ v.schema ++ "; " ++
    ", ".intercalate (v.issues.map fun i => i.kind ++ "@" ++ ".".intercalate i.path) ++ ")"

/-- Any failure an operation can end with. -/
inductive Error where
  | client (e : ClientError)
  /-- A value of the wrong type. -/
  | type (message : Text)
  /-- A value of the right type that does not fit. -/
  | value (message : Text)
  /-- A missing key. -/
  | key (k : Value)
  /-- A missing attribute on a value of the named type. -/
  | attribute (typeName name : String)
  /-- An attribute of the named type that can be read but not set. -/
  | readOnly (typeName name : String)
  /-- An attribute of the named type that no assignment may change. -/
  | notWritable (owner name : String)
  /-- An attribute a value without a table of its own finds on its type, so cannot set. -/
  | typeAttribute (typeName name : String)
  /-- A property every member of an enumeration has, which no member can set. -/
  | memberProperty (name : String)
  /-- An attribute that belongs to the named type itself, not to its values. -/
  | classAttribute (typeName name : String)
  /-- A document that does not fit its schema. -/
  | invalid (v : Invalid)
  /-- A text with lone surrogates where UTF-8 bytes are needed. -/
  | unencodable (u : Utf8.Unencodable)
  /-- Reading went deeper than the room it has. -/
  | recursion (message : String)
  /-- The operating system refused a call, with its error number and the number's text. -/
  | system (code : Nat) (message : String)
  /-- A text that is not a URL. -/
  | invalidUrl (message : String)
  /-- A failure of another class, passed through: its class name and message. -/
  | other (className message : String)
  deriving DecidableEq

namespace Error

/-- The class name of a failure. -/
def className : Error → String
  | .client e => e.kind.className
  | .type _ => "TypeError"
  | .value _ => "ValueError"
  | .key _ => "KeyError"
  | .attribute .. => "AttributeError"
  | .readOnly .. => "AttributeError"
  | .classAttribute .. => "AttributeError"
  | .notWritable .. => "AttributeError"
  | .typeAttribute .. => "AttributeError"
  | .memberProperty _ => "AttributeError"
  | .invalid _ => "ValidationError"
  | .unencodable _ => "UnicodeEncodeError"
  | .recursion _ => "RecursionError"
  | .system .. => "OSError"
  | .invalidUrl _ => "InvalidURL"
  | .other c _ => c

/-- The text of a failure that is not a service failure. -/
def plainText : Error → Text
  | .client e => e.message.text
  | .type m => m
  | .value m => m
  | .key k => Text.ofString k.repr
  | .attribute t n => Text.ofString s!"'{t}' object has no attribute '{n}'"
  | .readOnly t n => Text.ofString s!"property '{n}' of '{t}' object has no setter"
  | .notWritable t n => Text.ofString s!"attribute '{n}' of '{t}' objects is not writable"
  | .typeAttribute t n => Text.ofString s!"'{t}' object attribute '{n}' is read-only"
  | .memberProperty n => Text.ofString s!"<enum 'Enum'> cannot set attribute '{n}'"
  | .classAttribute t n => Text.ofString (s!"'{n}' is a ClassVar of " ++ "`" ++ t ++
      "` and cannot be set on an instance. " ++ "If you want to set a value on the class, use `" ++
      t ++ "." ++ n ++ " = value`.")
  | .invalid v => Text.ofString v.text
  | .unencodable u => Text.ofString u.message
  | .recursion m => Text.ofString m
  | .system code m => Text.ofString s!"[Errno {code}] {m}"
  | .invalidUrl m => Text.ofString m
  | .other _ m => Text.ofString m

/-- A service failure of the given kind with a text message. -/
def service (kind : ClientErrorKind) (message : String) (operation : Value := .null)
    (docId : Value := .null) (status : Value := .null) : Error :=
  .client { kind, message := .str message, operation, docId, status }

/-- A decode failure raised while reading a document. -/
def decodeDoc (message : String) (docId : Value := .null) : Error :=
  service .decode message (.str "decode") docId

end Error

end DocClient
