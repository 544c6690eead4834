/-!
Tables keyed by code point. A range table holds sorted, disjoint, inclusive ranges, each with
a value; a keyed table holds entries sorted by a key. A lookup halves the window of candidate
entries at each step, so it reads a number of entries logarithmic in the size of the table.
-/
namespace DocClient

namespace Ranges

/-- The range that holds `n`, with its value, found by halving the window. -/
def entryIn {α : Type} (rs : Array (Nat × Nat × α)) (n lo hi : Nat) : Option (Nat × Nat × α) :=
  if _h : lo < hi then
    let mid := (lo + hi) / 2
    match rs[mid]? with
    | none => none
    | some e =>
      if n < e.1 then entryIn rs n lo mid
      else if e.2.1 < n then entryIn rs n (mid + 1) hi
      else some e
  else none
termination_by hi - lo

/-- The range that holds `n`, with its value, if one does. -/
def rangeOf? {α : Type} (rs : Array (Nat × Nat × α)) (n : Nat) : Option (Nat × Nat × α) :=
  entryIn rs n 0 rs.size

/-- The value of the range that holds `n`, if one does. -/
def find? {α : Type} (rs : Array (Nat × Nat × α)) (n : Nat) : Option α :=
  (rangeOf? rs n).map (·.2.2)

/-- Whether `n` falls in one of the ranges from index `lo` up to, not including, `hi`. -/
def memIn (rs : Array (Nat × Nat)) (n lo hi : Nat) : Bool :=
  if _h : lo < hi then
    let mid := (lo + hi) / 2
    match rs[mid]? with
    | none => false
    | some r =>
      if n < r.1 then memIn rs n lo mid
      else if r.2 < n then memIn rs n (mid + 1) hi
      else true
  else false
termination_by hi - lo

/-- Whether `n` falls in one of the ranges. -/
def mem (rs : Array (Nat × Nat)) (n : Nat) : Bool := memIn rs n 0 rs.size

/-- The value of the entry with key `n`, found by halving the window. -/
def keyedIn {α : Type} (es : Array (Nat × α)) (n lo hi : Nat) : Option α :=
  if _h : lo < hi then
    let mid := (lo + hi) / 2
    match es[mid]? with
    | none => none
    | some e =>
      if n < e.1 then keyedIn es n lo mid
      else if e.1 < n then keyedIn es n (mid + 1) hi
      else some e.2
  else none
termination_by hi - lo

/-- The value of the entry with key `n`, if there is one. -/
def keyed? {α : Type} (es : Array (Nat × α)) (n : Nat) : Option α := keyedIn es n 0 es.size

@[simp] theorem find?_empty {α : Type} (n : Nat) : find? (#[] : Array (Nat × Nat × α)) n = none := by
  simp [find?, rangeOf?, entryIn]

@[simp] theorem mem_empty (n : Nat) : mem #[] n = false := by
  simp [mem, memIn]

@[simp] theorem keyed?_empty {α : Type} (n : Nat) : keyed? (#[] : Array (Nat × α)) n = none := by
  simp [keyed?, keyedIn]

end Ranges

end DocClient
