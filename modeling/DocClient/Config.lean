import DocClient.Text.Escaped
import DocClient.Error
import DocClient.Value.Text
import DocClient.Decimal.Read
/-!
Connection settings read from a process environment, whose variables are byte strings.
Setting a variable checks the name and value in order; unset variables keep the defaults.
-/
namespace DocClient

/-- Variables of a process, in the order they were first set. -/
structure Environment where
  vars : List (List UInt8 × List UInt8) := []

namespace Environment

/-- The bytes of a name or value, or why it cannot be one. -/
def bytesOf : Value → Except Error (List UInt8)
  | .str t => (Utf8.encodeEscaping t).mapError .unencodable
  | v => .error (.type (Text.ofString s!"str expected, not {v.typeName}"))

/-- Set a variable, or say why it cannot be set. -/
def set (env : Environment) (name value : Value) : Except Error Environment := do
  let n ← bytesOf name
  let v ← bytesOf value
  if n.contains 0 || v.contains 0 then throw (.value "embedded null byte")
  if n.contains 61 then throw (.value "illegal environment variable name")
  if n.isEmpty then throw (.system 22 "Invalid argument")
  let vars := if env.vars.any (·.1 == n) then env.vars.map fun p => if p.1 == n then (n, v) else p
    else env.vars ++ [(n, v)]
  pure { vars }

/-- Set variables in order; the first that cannot be set stops the rest. -/
def setAll (env : Environment) : List (Value × Value) → Except Error Environment
  | [] => .ok env
  | (n, v) :: rest => do setAll (← env.set n v) rest

/-- The value of a variable, decoded with escapes. -/
def get? (env : Environment) (name : String) : Option Text :=
  (env.vars.find? (·.1 == Utf8.encode name)).map (Utf8.decodeEscaping ·.2)

end Environment

/-- Connection settings. -/
structure Config where
  url : Text := "http://localhost:5984"
  username : Option Text := none
  password : Option Text := none
  timeout : Binary64 := Binary64.ofInt 30
  prefixText : Text := ""

namespace Config

/-- Whether settings are the defaults; a NaN timeout never is. -/
def isDefault (c : Config) : Bool :=
  let d : Config := {}
  c.url == d.url && c.username == d.username && c.password == d.password &&
    Binary64.numEq c.timeout d.timeout && c.prefixText == d.prefixText

/-- Settings from the environment. -/
def fromEnv (env : Environment) : Except Error Config := do
  let d : Config := {}
  let nonEmpty (o : Option Text) : Option Text := o.bind fun s => if s.isEmpty then none else some s
  let timeout ← match env.get? "COUCHDB_TIMEOUT" with
    | none => pure d.timeout
    | some t =>
      if t.isEmpty then pure d.timeout
      else match Numeral.readFloat? t with
        | some x => pure x
        | none => throw (.value (Text.ofString ("could not convert string to float: " ++ (Value.str t).repr)))
  pure { url := (env.get? "COUCHDB_URL").getD d.url, username := nonEmpty (env.get? "COUCHDB_USER"),
         password := nonEmpty (env.get? "COUCHDB_PASSWORD"), timeout,
         prefixText := (env.get? "COUCHDB_DB_PREFIX").getD d.prefixText }

end Config

end DocClient
