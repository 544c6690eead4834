import DocClient.Value.Items
/-!
Find requests: a selector with paging, ordering, projection and index options, written as a
body with keys in a fixed order, and read back.
-/
namespace DocClient

/-- A find request. Options are kept as given; unset ones are null. -/
structure FindRequest where
  selector : Value := .dict []
  limit : Value := .null
  skip : Value := .null
  sort : Value := .tuple []
  fields : Value := .null
  useIndex : Value := .null
  bookmark : Value := .null
  r : Value := .null
  update : Value := .null
  stable : Value := .null
  executionStats : Value := .null
  deriving Inhabited, DecidableEq

namespace FindRequest

/-- The selector that matches every document. -/
def matchAll : Value := Value.obj [("_id", Value.obj [("$ne", .null)])]

/-- The request for every document. -/
def all : FindRequest := { selector := matchAll }

/-- The options by name, in the order a body lists them. -/
def options (q : FindRequest) : List (String × Value) :=
  [("selector", q.selector), ("limit", q.limit), ("skip", q.skip), ("sort", q.sort),
   ("fields", q.fields), ("use_index", q.useIndex), ("bookmark", q.bookmark), ("r", q.r),
   ("update", q.update), ("stable", q.stable), ("execution_stats", q.executionStats)]

/-- Set an option by name; other names are refused. -/
def setOption (q : FindRequest) (name : String) (v : Value) : Except Error FindRequest :=
  match name with
  | "selector" => .ok { q with selector := v }
  | "limit" => .ok { q with limit := v }
  | "skip" => .ok { q with skip := v }
  | "sort" => .ok { q with sort := v }
  | "fields" => .ok { q with fields := v }
  | "use_index" => .ok { q with useIndex := v }
  | "bookmark" => .ok { q with bookmark := v }
  | "r" => .ok { q with r := v }
  | "update" => .ok { q with update := v }
  | "stable" => .ok { q with stable := v }
  | "execution_stats" => .ok { q with executionStats := v }
  | _ => .error (.type s!"FindQuery.__init__() got an unexpected keyword argument '{name}'")

/-- A request with the given options and all others unset. -/
def ofOptions (opts : List (String × Value)) : Except Error FindRequest :=
  opts.foldlM (fun q o => q.setOption o.1 o.2) {}

/-- The text of a sort direction: `asc` or `desc`, by value equality. -/
def direction (d : Value) : Except Error Value :=
  if d.eq (.str "asc") then .ok (.str "asc")
  else if d.eq (.str "desc") then .ok (.str "desc")
  else .error (.value s!"{d.repr} is not a valid SortDirection")

/-- One sort entry in its stored form: a name as given, or a one-field object. -/
def sortEntry (spec : Value) : Except Error Value :=
  let pair (name dir : Value) : Except Error Value := do
    let d ← direction dir
    Value.checkKey name
    pure (.dict [(name, d)])
  match spec with
  | .str _ | .updateMode _ => .ok spec
  | .tuple [name, dir] => pair name dir
  | .dict [(name, dir)] => pair name dir
  | _ => .error (.value s!"Invalid sort spec: {spec.repr}")

/-- The sort entries of a value, as a tuple. -/
def sortEntries (v : Value) : Except Error Value := do
  let xs ← v.items
  let es ← xs.mapM sortEntry
  pure (.tuple es)

/-- The items of a value as a tuple, or null for null. -/
def tupleOrNull (v : Value) : Except Error Value :=
  match v with
  | .null => .ok .null
  | _ => do
    let xs ← v.items
    pure (.tuple xs)

/-- Set the selector: an object built from the value. -/
def withSelector (q : FindRequest) (sel : Value) : Except Error FindRequest := do
  let es ← sel.toEntries
  pure { q with selector := .dict es }

/-- Set the sort order. -/
def withSort (q : FindRequest) (sort : Value) : Except Error FindRequest := do
  let s ← sortEntries sort
  pure { q with sort := s }

/-- Set the page size; a negative one is refused. -/
def withLimit (q : FindRequest) (n : Value) : Except Error FindRequest := do
  if n matches .null then return { q with limit := n }
  if ← n.isNegative then throw (.value "limit must not be negative")
  pure { q with limit := n }

/-- Set how many results to pass over; a negative count is refused. -/
def withSkip (q : FindRequest) (n : Value) : Except Error FindRequest := do
  if n matches .null then return { q with skip := n }
  if ← n.isNegative then throw (.value "skip must not be negative")
  pure { q with skip := n }

/-- Set the projected fields. -/
def withFields (q : FindRequest) (fs : Value) : Except Error FindRequest := do
  let f ← tupleOrNull fs
  pure { q with fields := f }

/-- Name the index: a design document, with an index name when one is given. -/
def withIndex (q : FindRequest) (design : Value) (name : Value := .null) : FindRequest :=
  { q with useIndex := if name.truthy then .tuple [design, name] else design }

/-- Continue from a bookmark. -/
def withBookmark (q : FindRequest) (b : Value) : FindRequest := { q with bookmark := b }

/-- The entry of an option in a body: left out while the option is unset. -/
def optionEntry (key : String) (v : Value) : List (String × Value) :=
  match v with
  | .null => []
  | _ => [(key, v)]

/-- The entry of the index in a body. -/
def indexEntry (v : Value) : List (String × Value) :=
  match v with
  | .null => []
  | .tuple xs => [("use_index", .list xs)]
  | v => [("use_index", v)]

/-- The body of a request: keys in fixed order, unset options left out. -/
def toBody (q : FindRequest) : Except Error (List (Value × Value)) := do
  let sort ← if q.sort.truthy then do pure [("sort", Value.list (← q.sort.items))] else pure []
  let fields ← match q.fields with
    | .null => pure []
    | v => do pure [("fields", Value.list (← v.items))]
  let body := [("selector", q.selector)] ++ optionEntry "limit" q.limit ++
    optionEntry "skip" q.skip ++ sort ++ fields ++ indexEntry q.useIndex ++ optionEntry "r" q.r ++
    optionEntry "bookmark" q.bookmark ++ optionEntry "update" q.update ++
    optionEntry "stable" q.stable ++ optionEntry "execution_stats" q.executionStats
  pure (body.map fun e => (.str e.1, e.2))

/-- The index a body names: a list is taken as a tuple. -/
def indexOf (v : Value) : Value :=
  match v with
  | .list xs => .tuple xs
  | v => v

/-- Read a request from a body. -/
def ofBody (body : Value) : Except Error FindRequest :=
  match body with
  | .dict es => do
    let g := Value.getD es
    let useIndex := indexOf (g "use_index")
    let sort ← sortEntries ((Value.get? es "sort").getD (.list []))
    let fields ← tupleOrNull (g "fields")
    pure { selector := (Value.get? es "selector").getD (.dict []), limit := g "limit",
           skip := g "skip", sort, fields, useIndex, bookmark := g "bookmark", r := g "r",
           update := g "update", stable := g "stable", executionStats := g "execution_stats" }
  | v => .error (.attribute v.typeName "get")

/-- Two requests with the same options, compared as stored. -/
def same (q q' : FindRequest) : Bool :=
  (q.options.zip q'.options).all fun p => p.1.2.same p.2.2

end FindRequest

end DocClient
