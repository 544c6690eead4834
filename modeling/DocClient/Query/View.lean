import DocClient.Value.Items
/-!
View requests: the options of a view, all-documents or multi-query request. Options are
set by name, and a body lists the set ones in one fixed order, the keys as a list and an
update mode as its text.
-/
namespace DocClient

/-- The options of a view request, in the order a body lists them. -/
def viewOptionNames : List String :=
  ["conflicts", "descending", "end_key", "end_key_doc_id", "group", "group_level",
   "include_docs", "attachments", "att_encoding_info", "inclusive_end", "key", "keys",
   "limit", "reduce", "skip", "sorted", "stable", "start_key", "start_key_doc_id", "update",
   "update_seq"]

/-- A view request: the options that are set, by name. -/
structure ViewRequest where
  settings : List (String × Value) := []
  deriving Inhabited

namespace ViewRequest

/-- The value of an option, null when unset. -/
def get (q : ViewRequest) (name : String) : Value :=
  ((q.settings.find? (·.1 = name)).map (·.2)).getD .null

/-- Set an option; a name that is no option is refused. -/
def set (q : ViewRequest) (name : String) (v : Value) : Except Error ViewRequest :=
  if viewOptionNames.contains name then
    .ok { settings := (q.settings.filter (·.1 != name)) ++ [(name, v)] }
  else .error (.type s!"ViewQuery.__init__() got an unexpected keyword argument '{name}'")

/-- A request with the given options. -/
def ofOptions (opts : List (String × Value)) : Except Error ViewRequest :=
  opts.foldlM (fun q o => q.set o.1 o.2) {}

/-- A request for the given keys. -/
def ofKeys (keys : Value) : Except Error ViewRequest := do
  let ks ← keys.items
  pure { settings := [("keys", .list ks)] }

/-- The body of a request: set options in fixed order, null ones left out. -/
def toBody (q : ViewRequest) : Except Error (List (Value × Value)) :=
  let add (body : List (Value × Value)) (name : String) : Except Error (List (Value × Value)) :=
    match q.get name with
    | .null => .ok body
    | v =>
      if name = "keys" then do
        let ks ← v.items
        pure (body ++ [(.str name, .list ks)])
      else
        match v with
        | .updateMode m => .ok (body ++ [(.str name, .str m.text)])
        | _ => .ok (body ++ [(.str name, v)])
  viewOptionNames.foldlM add []

end ViewRequest

end DocClient
