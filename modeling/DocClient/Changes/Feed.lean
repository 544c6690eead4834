import DocClient.Changes.Framing
import DocClient.Document.Adapter
import DocClient.Json.Read
import DocClient.Reply
import DocClient.Http.Wire
/-!
The state of a change feed and the meaning of one record. A record with `last_seq` and no
`id` ends a batch, one with `error` and no `id` is a failure, any other is a change; a record
that cannot be read is malformed, and the feed fails with it or skips it.
-/
namespace DocClient

/-- Whether a feed ends after one batch of changes or follows the database forever. -/
inductive FeedMode where
  | bounded
  | continuous
  deriving DecidableEq, Repr

/-- The text of a mode. -/
def FeedMode.text : FeedMode → String
  | .bounded => "bounded"
  | .continuous => "continuous"

/-- The mode a text names. -/
def FeedMode.ofValue (v : Value) : Except Error FeedMode :=
  if v.eq (.str "bounded") then .ok .bounded
  else if v.eq (.str "continuous") then .ok .continuous
  else .error (.value s!"{v.repr} is not a valid FeedMode")

/-- What a feed does with a malformed record. -/
inductive MalformedPolicy where
  | raise
  | skip
  deriving DecidableEq, Repr

/-- The longest wait a continuous feed asks the server for, in milliseconds. -/
def maxFeedTimeout : Int := 60000

/-- What a feed is following and how. -/
structure FeedSpec where
  db : String
  adapter : Adapter
  mode : FeedMode
  includeDocs : Value
  policy : MalformedPolicy
  extra : List (Value × Value)
  deriving DecidableEq

/-- A change feed. -/
structure ChangeFeed where
  spec : FeedSpec
  lastSeq : Value
  framer : Framer := {}
  /-- The rest of the reply being read, while a connection is open. -/
  reading : Option (List Piece) := none
  cancelled : Bool := false
  finished : Bool := false
  deriving DecidableEq

namespace ChangeFeed

/-- A new feed: the policy must be `raise` or `skip`, the extra parameters an object. -/
def create (db : String) (adapter : Adapter) (mode : FeedMode) (since includeDocs policy : Value)
    (params : Value) : Except Error ChangeFeed := do
  let pol ← if policy.eq (.str "raise") then pure MalformedPolicy.raise
    else if policy.eq (.str "skip") then pure MalformedPolicy.skip
    else throw (.value s!"Invalid on_malformed policy: {policy.repr}")
  let extra ← if params.truthy then params.toEntries else pure []
  pure { spec := ⟨db, adapter, mode, includeDocs, pol, extra⟩, lastSeq := since }

/-- The query of the next request, ending with the sequence to resume after. -/
def params (f : ChangeFeed) : List (Value × Value) :=
  let base : List (Value × Value) :=
    [(.str "feed", .str "continuous"),
     (.str "timeout", .int (if f.spec.mode = .continuous then maxFeedTimeout else 0))]
  let withDocs := if f.spec.includeDocs.truthy then base ++ [(.str "include_docs", .bool true)] else base
  let merged := Value.update withDocs f.spec.extra
  match f.lastSeq with
  | .null => merged
  | s => Value.insert (.str "since") (.str s.text) merged

/-- Stop the feed: the partial record is dropped, the queue too unless `drain` is set. -/
def cancel (f : ChangeFeed) (drain : Bool) : ChangeFeed :=
  { f with cancelled := true,
           framer := { pendingBytes := [], records := if drain then f.framer.records else [] } }

end ChangeFeed

/-- What one record means for a feed. -/
inductive RecordMeaning where
  /-- The end of a batch, with the sequence reached. -/
  | batchEnd (seq : Value)
  /-- A change. -/
  | change (ev : ChangeEvent)
  /-- A record that cannot be read, with the reason, or the failure to write the reason. -/
  | malformed (reason : Except String Text)

/-- The reason a failure gives when a record cannot be read, `none` if it is not about one. -/
def recordFault : Error → Option (Except String Text)
  | .client c => some c.text
  | .value m | .type m => some (.ok m)
  | .key k => some (.ok (Text.ofString k.repr))
  | .unencodable u => some (.ok (Text.ofString u.message))
  | _ => none

/-- Read a record's text as a change, `depth` calls below the step. -/
def readRecord (depth : Nat) (adapter : Adapter) (text : String) : Except Error RecordMeaning :=
  let asMalformed (e : Error) : Except Error RecordMeaning :=
    match recordFault e with
    | some r => .ok (.malformed r)
    | none => .error e
  match Json.readText (Json.stackRoom - depth) text with
  | .error (.tooDeep array) => .error (.recursion ((Json.Failure.tooDeep array).message []))
  | .error f => .ok (.malformed (.ok (Text.ofString (f.message (Text.ofString text).points))))
  | .ok (.dict es) =>
    let has (k : String) := (Value.get? es k).isSome
    if has "last_seq" && !has "id" then .ok (.batchEnd (Value.getD es "last_seq"))
    else if has "error" && !has "id" then
      .ok (.malformed (.ok ((Value.getD es "error").text ++ Text.ofString ": " ++
        (Value.getD es "reason").text)))
    else
      match ChangeEvent.ofRecord es with
      | .error e => asMalformed e
      | .ok ev =>
        if ev.deleted then .ok (.change { ev with doc := .null })
        else match ev.doc with
          | .null => .ok (.change ev)
          | d =>
            match adapter.fromEnvelope d with
            | .ok doc => .ok (.change { ev with doc })
            | .error e => asMalformed e
  | .ok _ => .ok (.malformed (.ok "record is not a JSON object"))

/-- The text of a record line: decoded with replacement and trimmed of white space. -/
def recordText (line : List UInt8) : String :=
  String.ofList (Blank.trimBy Blank.isSpace (Utf8.decodeReplacing line))

end DocClient
