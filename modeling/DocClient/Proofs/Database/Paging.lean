import DocClient.Proofs.Database.FindAll
/-!
# Paging through a fixed list of documents

Against a server holding a fixed list `D`, a traversal hands out the documents of `D` from
its start, each once and in order, up to its cap, one request per page. The invariant
`Served` carries it (`traversal_pages_through_list`).
-/
namespace DocClient

namespace FindServer

/-- The bookmark the server gives for a position: its decimal text. -/
def bookmark (p : Nat) : Value := .str (Text.ofString (toString p))

/-- The position a bookmark names: the number its text spells, and 0 for no bookmark. -/
def start : Value → Nat
  | .str t => Nat.ofDigitChars 10 t.lossy.toList 0
  | _ => 0

/-- A count the server reads from a request: an integer, and 0 when absent. -/
def count : Value → Nat
  | .int i => i.toNat
  | _ => 0

/-- Where a request starts: the position of its bookmark plus its skip. -/
def position (q : FindRequest) : Nat := start q.bookmark + count q.skip

/-- The rows of a run of documents: all but design documents. -/
def rows (ds : List Value) : List Value := ds.filter Database.handedOut

/-- The server's answer to a find request over the list `D`. -/
def answer (D : List Value) (q : FindRequest) : FindAnswer :=
  let page := (D.drop (position q)).take (count q.limit)
  .ok ({ rows := rows page,
         bookmark := if page.isEmpty then .null else bookmark (position q + page.length) },
       page.length)

@[simp] theorem start_bookmark (p : Nat) : start (bookmark p) = p := by
  simp only [bookmark, start, Text.lossy_ofString, Nat.toString_eq_repr, Nat.toList_repr,
    Nat.ofDigitChars_ten_toDigits]

@[simp] theorem start_null : start .null = 0 := rfl

@[simp] theorem count_int (n : Nat) : count (.int n) = n := by
  simp [count]

@[simp] theorem count_null : count .null = 0 := rfl

theorem bookmark_ne_null (p : Nat) : bookmark p ≠ .null := nofun

theorem eq_of_bookmark_eq {a b : Nat} (h : (bookmark a).eq (bookmark b) = true) : a = b := by
  have hab : Text.ofString (toString a) = Text.ofString (toString b) := by
    simpa [bookmark, Value.eq, Value.scalarEq?, Value.asInt?, Value.asText?] using h
  rw [← start_bookmark a, ← start_bookmark b, bookmark, bookmark, hab]

theorem bookmark_eq_null (p : Nat) : (bookmark p).eq .null = false := by
  simp [bookmark, Value.eq, Value.scalarEq?, Value.asInt?, Value.asText?]

@[simp] theorem rows_append (xs ys : List Value) : rows (xs ++ ys) = rows xs ++ rows ys :=
  List.filter_append ..

theorem rows_take_drop (ds : List Value) (n : Nat) :
    rows (ds.take n) ++ rows (ds.drop n) = rows ds := by
  rw [← rows_append, List.take_append_drop]

@[simp] theorem position_resume (q : FindRequest) (p : Nat) :
    position { q with bookmark := bookmark p, skip := .null } = p := by
  simp [position]

end FindServer

namespace FindWalk

open FindServer

/-- What a walk still has to hand out from the server's list `D`. -/
def pending (D : List Value) (w : FindWalk) : List Value :=
  w.queue ++ if w.more then rows (D.drop (position w.query)) else []

/-- A walk over `D` with page size `S`, started at `p₀`, after `j` pages. -/
structure Served (D : List Value) (S p₀ j : Nat) (w : FindWalk) : Prop where
  limit : w.query.limit = .int S
  named : w.last = .null ∨ ∃ m, w.last = bookmark m
  resumes : w.more = true → w.query.bookmark = w.last
  position : w.more = true → position w.query = p₀ + j * S
  full : w.more = true → j * S ≤ D.length - p₀
  ended : w.more = false →
    j = (D.length - p₀) / S + 1 ∧
      rows (D.drop (FindServer.start w.last + count w.query.skip)) = []
  pending : pending D w = (rows (D.drop p₀)).drop w.yielded
  fetched : w.yielded + w.queue.length = (rows ((D.drop p₀).take (j * S))).length

theorem served_start (D : List Value) (S : Nat) (q : FindRequest)
    (hq : q.bookmark = .null ∨ ∃ m, q.bookmark = bookmark m) :
    Served D S (position q) 0 (start q (.int S)) where
  limit := rfl
  named := hq
  resumes _ := rfl
  position _ := by simp [start, position]
  full _ := by simp
  ended h := by cases h
  pending := by simp [pending, start, position]
  fetched := by simp [start, rows]

theorem full_int (S n : Nat) : full (.int S) n = decide (S ≤ n) := by
  simp [full, FindCursor.atMost, Value.asInt?]

theorem refill_inv {S : Value} {w w' : FindWalk} {as as' : List FindAnswer} {f : Option Error}
    {qs : List FindRequest} (h : refill S w as = some (f, w', as', qs)) :
    ((!w.queue.isEmpty || !w.more) = true ∧ f = none ∧ w' = w ∧ as' = as ∧ qs = []) ∨
    ((!w.queue.isEmpty || !w.more) = false ∧
      ((∃ e rest, as = .error e :: rest ∧ f = some e ∧ w' = w ∧ as' = rest ∧ qs = [w.query]) ∨
       ∃ page n rest qs', as = .ok (page, n) :: rest ∧ qs = w.query :: qs' ∧
         refill S (w.receive S page n) rest = some (f, w', as', qs'))) := by
  rw [refill.eq_def] at h
  dsimp only at h
  split at h
  · rename_i hready
    cases h
    exact .inl ⟨hready, rfl, rfl, rfl, rfl⟩
  · rename_i hready
    refine .inr ⟨Bool.eq_false_iff.mpr hready, ?_⟩
    split at h
    · cases h
    · cases h
      exact .inl ⟨_, _, rfl, rfl, rfl, rfl, rfl⟩
    · rename_i page n rest
      obtain ⟨⟨f', w'', as'', qs'⟩, hr, heq⟩ := Option.map_eq_some_iff.mp h
      cases heq
      exact .inr ⟨page, n, rest, qs', rfl, rfl, hr⟩

theorem refill_rest {S : Value} (as : List FindAnswer) : ∀ {w w' : FindWalk}
    {as' : List FindAnswer} {f : Option Error} {qs : List FindRequest},
    refill S w as = some (f, w', as', qs) → as' = as.drop qs.length := by
  induction as with
  | nil =>
    intro w w' as' f qs h
    rcases refill_inv h with ⟨-, -, -, rfl, rfl⟩ | ⟨-, ⟨e, rest, has, -⟩ | ⟨page, n, rest, qs', has, -⟩⟩
    · rfl
    · cases has
    · cases has
  | cons a rest ih =>
    intro w w' as' f qs h
    rcases refill_inv h with ⟨-, -, -, rfl, rfl⟩ |
      ⟨-, ⟨e, rest', has, -, -, rfl, rfl⟩ | ⟨page, n, rest', qs', has, rfl, hr⟩⟩
    · rfl
    · cases has
      rfl
    · cases has
      rw [ih hr]
      rfl

theorem call_inv {S M : Value} {adapter : Adapter} {w w' : FindWalk}
    {as as' : List FindAnswer} {out : Except Error (Option Value)} {qs : List FindRequest}
    (h : call S M adapter w as = some (out, w', as', qs)) :
    (capped M w.yielded = true ∧ out = .ok none ∧ w' = { w with more := false, queue := [] } ∧
      as' = as ∧ qs = []) ∨
    (capped M w.yielded = false ∧ ∃ f w₁, refill S w as = some (f, w₁, as', qs) ∧
      ((∃ e, f = some e ∧ out = .error e ∧ w' = w₁) ∨
        (f = none ∧ out = (hand adapter w₁).1 ∧ w' = (hand adapter w₁).2))) := by
  unfold call at h
  split at h
  · rename_i hcap
    cases h
    exact .inl ⟨hcap, rfl, rfl, rfl, rfl⟩
  · rename_i hcap
    obtain ⟨⟨f, w₁, as₁, qs₁⟩, hr, heq⟩ := Option.map_eq_some_iff.mp h
    refine .inr ⟨Bool.eq_false_iff.mpr hcap, f, w₁, ?_⟩
    cases f with
    | some e =>
      cases heq
      exact ⟨hr, .inl ⟨e, rfl, rfl, rfl⟩⟩
    | none =>
      cases heq
      exact ⟨hr, .inr ⟨rfl, rfl, rfl⟩⟩

theorem call_rest {S M : Value} {adapter : Adapter} {w w' : FindWalk}
    {as as' : List FindAnswer} {out : Except Error (Option Value)} {qs : List FindRequest}
    (h : call S M adapter w as = some (out, w', as', qs)) : as' = as.drop qs.length := by
  rcases call_inv h with ⟨-, -, -, rfl, rfl⟩ | ⟨-, f, w₁, hr, -⟩
  · rfl
  · exact refill_rest as hr

theorem calls_succ_inv {S M : Value} {adapter : Adapter} {n : Nat} {w w' : FindWalk}
    {as as' : List FindAnswer} {outs : List (Except Error (Option Value))}
    {qs : List FindRequest} (h : calls S M adapter (n + 1) w as = some (outs, w', as', qs)) :
    ∃ out w₁ as₁ qs₁ outs' qs₂, call S M adapter w as = some (out, w₁, as₁, qs₁) ∧
      calls S M adapter n w₁ as₁ = some (outs', w', as', qs₂) ∧
      outs = out :: outs' ∧ qs = qs₁ ++ qs₂ := by
  rw [calls] at h
  rcases hc : call S M adapter w as with _ | ⟨out, w₁, as₁, qs₁⟩
  · rw [hc] at h
    cases h
  · rw [hc] at h
    rcases hcs : calls S M adapter n w₁ as₁ with _ | ⟨outs', w'', as'', qs₂⟩
    · simp [hcs] at h
    · simp only [hcs, Option.bind_eq_bind, Option.bind_some] at h
      cases h
      exact ⟨out, w₁, as₁, qs₁, outs', qs₂, rfl, hcs, rfl, rfl⟩

theorem receive_skip {S : Value} {w : FindWalk} {page : ResultPage} {n : Nat}
    (h : w.query.skip = .null) : (w.receive S page n).query.skip = .null := by
  unfold receive
  -- the request changes only when a further page is due, and then it loses its skip
  simp only [apply_ite FindRequest.skip, h, ite_self]

theorem hand_query (adapter : Adapter) (w : FindWalk) : (hand adapter w).2.query = w.query := by
  unfold hand
  split
  · rfl
  · split
    · rfl
    · split <;> rfl

theorem refill_skip {S : Value} (as : List FindAnswer) : ∀ {w w' : FindWalk}
    {as' : List FindAnswer} {f : Option Error} {qs : List FindRequest},
    refill S w as = some (f, w', as', qs) → w.query.skip = .null → w'.query.skip = .null := by
  induction as with
  | nil =>
    intro w w' as' f qs h hs
    rcases refill_inv h with ⟨-, -, rfl, -, -⟩ | ⟨-, ⟨e, rest, has, -⟩ | ⟨page, n, rest, qs', has, -⟩⟩
    · exact hs
    · cases has
    · cases has
  | cons a rest ih =>
    intro w w' as' f qs h hs
    rcases refill_inv h with ⟨-, -, rfl, -, -⟩ |
      ⟨-, ⟨e, rest', -, -, rfl, -, -⟩ | ⟨page, n, rest', qs', has, -, hr⟩⟩
    · exact hs
    · exact hs
    · cases has
      exact ih hr (receive_skip hs)

theorem call_skip {S M : Value} {adapter : Adapter} {w w' : FindWalk}
    {as as' : List FindAnswer} {out : Except Error (Option Value)} {qs : List FindRequest}
    (h : call S M adapter w as = some (out, w', as', qs)) (hs : w.query.skip = .null) :
    w'.query.skip = .null := by
  rcases call_inv h with ⟨-, -, rfl, -, -⟩ | ⟨-, f, w₁, hr, ⟨e, -, -, rfl⟩ | ⟨-, -, rfl⟩⟩
  · exact hs
  · exact refill_skip as hr hs
  · rw [hand_query]
    exact refill_skip as hr hs

theorem calls_skip {S M : Value} {adapter : Adapter} : ∀ (n : Nat) {w w' : FindWalk}
    {as as' : List FindAnswer} {outs : List (Except Error (Option Value))} {qs : List FindRequest},
    calls S M adapter n w as = some (outs, w', as', qs) → w.query.skip = .null →
      w'.query.skip = .null
  | 0, w, w', as, as', outs, qs, h, hs => by
    rw [calls] at h
    cases h
    exact hs
  | n + 1, w, w', as, as', outs, qs, h, hs => by
    obtain ⟨out, w₁, as₁, qs₁, outs', qs₂, hc, hcs, -, -⟩ := calls_succ_inv h
    exact calls_skip n hcs (call_skip hc hs)

section Pages

variable {D : List Value} {S p₀ j : Nat} {w : FindWalk}

theorem answer_of_served (hT : Served D S p₀ j w) :
    answer D w.query =
      .ok ({ rows := rows ((D.drop (position w.query)).take S),
             bookmark := if ((D.drop (position w.query)).take S).isEmpty then .null
               else bookmark (position w.query + ((D.drop (position w.query)).take S).length) },
           ((D.drop (position w.query)).take S).length) := by
  rw [answer, hT.limit, count_int]

theorem bookmark_fresh (hT : Served D S p₀ j w) (hmore : w.more = true) {n : Nat} (hn : 0 < n) :
    (bookmark (position w.query + n)).eq w.last = false := by
  rcases hT.named with hnull | ⟨m, hm⟩
  · rw [hnull]
    exact bookmark_eq_null _
  · have hpos : m ≤ position w.query := by
      rw [position, hT.resumes hmore, hm, start_bookmark]
      exact Nat.le_add_right _ _
    rw [hm]
    cases heq : (bookmark (position w.query + n)).eq (bookmark m)
    · rfl
    · have := eq_of_bookmark_eq heq
      omega

theorem take_pages_succ (hpos : position w.query = p₀ + j * S) :
    (D.drop p₀).take ((j + 1) * S) =
      (D.drop p₀).take (j * S) ++ (D.drop (position w.query)).take S := by
  rw [Nat.succ_mul, List.take_add, List.drop_drop, hpos]

theorem receive_full (hS : 0 < S) (hT : Served D S p₀ j w) (hq : w.queue = [])
    (hmore : w.more = true) (hfull : S ≤ (D.drop (position w.query)).length)
    {page : ResultPage} {n : Nat} (ha : answer D w.query = .ok (page, n)) :
    Served D S p₀ (j + 1) (w.receive (.int S) page n) := by
  rw [answer_of_served hT] at ha
  cases ha
  have hlen : ((D.drop (position w.query)).take S).length = S := by
    rw [List.length_take]
    omega
  have hne : ((D.drop (position w.query)).take S).isEmpty = false := by
    rw [List.isEmpty_eq_false_iff, ← List.length_pos_iff, hlen]
    exact hS
  have hpos := hT.position hmore
  simp only [hne, hlen, Bool.false_eq_true, if_false]
  rw [receive_of_ne (.int S) (bookmark_ne_null _)]
  dsimp only
  rw [full_int, bookmark_fresh hT hmore hS, if_pos (by simp)]
  refine ⟨hT.limit, .inr ⟨_, rfl⟩, fun _ => rfl, fun _ => ?_, fun _ => ?_, nofun, ?_, ?_⟩
  · rw [position_resume, hpos, Nat.succ_mul, Nat.add_assoc]
  · rw [List.length_drop] at hfull
    rw [Nat.succ_mul]
    omega
  · -- the page's rows, then the rows after it, are the rows from its position
    rw [← hT.pending]
    simp only [pending, hq, hmore, if_true, List.nil_append, position_resume]
    rw [← List.drop_drop, rows_take_drop]
  · dsimp only
    rw [take_pages_succ hpos, rows_append, List.length_append, List.length_append, ← hT.fetched,
      hq, List.length_nil, Nat.add_zero, Nat.zero_add]

theorem receive_short (hT : Served D S p₀ j w) (hq : w.queue = [])
    (hmore : w.more = true) (hshort : (D.drop (position w.query)).length < S)
    {page : ResultPage} {n : Nat} (ha : answer D w.query = .ok (page, n)) :
    Served D S p₀ (j + 1) (w.receive (.int S) page n) := by
  rw [answer_of_served hT] at ha
  cases ha
  have hpos := hT.position hmore
  have htake : (D.drop (position w.query)).take S = D.drop (position w.query) :=
    List.take_of_length_le (Nat.le_of_lt hshort)
  -- the walk has taken `j` full pages and this short one: it ends after `j + 1`
  have hcount : j + 1 = (D.length - p₀) / S + 1 := by
    have hfull := hT.full hmore
    rw [List.length_drop, hpos] at hshort
    rw [Nat.div_eq_of_lt_le (by omega) (by rw [Nat.succ_mul]; omega)]
  have hpend : rows ((D.drop (position w.query)).take S) = (rows (D.drop p₀)).drop w.yielded := by
    rw [htake, ← hT.pending]
    simp [pending, hq, hmore]
  have hfetch : w.yielded + (w.queue ++ rows ((D.drop (position w.query)).take S)).length =
      (rows ((D.drop p₀).take ((j + 1) * S))).length := by
    rw [take_pages_succ hpos, rows_append, List.length_append, List.length_append, ← hT.fetched,
      hq, List.length_nil, Nat.add_zero, Nat.zero_add]
  by_cases hempty : ((D.drop (position w.query)).take S).isEmpty = true
  · -- an empty page gives no bookmark: the last one stays, at the request's position
    simp only [hempty, if_true]
    rw [receive_of_null (.int S) rfl]
    refine ⟨hT.limit, hT.named, nofun, nofun, nofun, fun _ => ⟨hcount, ?_⟩, ?_, hfetch⟩
    · rw [← hT.resumes hmore, ← position, ← htake, List.isEmpty_iff.mp hempty]
      rfl
    · simpa [pending, hq] using hpend
  · -- a page up to the end of `D`: its bookmark names the end
    have hne : ((D.drop (position w.query)).take S).isEmpty = false := by simpa using hempty
    simp only [hne, Bool.false_eq_true, if_false]
    rw [receive_of_ne (.int S) (bookmark_ne_null _)]
    dsimp only
    have hnotfull : decide (S ≤ ((D.drop (position w.query)).take S).length) = false := by
      rw [htake]
      simpa using hshort
    rw [full_int, hnotfull, Bool.false_and, if_neg Bool.false_ne_true]
    refine ⟨hT.limit, .inr ⟨_, rfl⟩, nofun, nofun, nofun, fun _ => ⟨hcount, ?_⟩, ?_, hfetch⟩
    · rw [start_bookmark, htake, List.length_drop, List.drop_eq_nil_of_le (by omega)]
      rfl
    · simpa [pending, hq] using hpend

theorem receive_served (hS : 0 < S) (hT : Served D S p₀ j w) (hq : w.queue = [])
    (hmore : w.more = true) {page : ResultPage} {n : Nat} (ha : answer D w.query = .ok (page, n)) :
    Served D S p₀ (j + 1) (w.receive (.int S) page n) := by
  by_cases hfull : S ≤ (D.drop (position w.query)).length
  · exact receive_full hS hT hq hmore hfull ha
  · exact receive_short hT hq hmore (Nat.lt_of_not_le hfull) ha

theorem refill_served (hS : 0 < S) : ∀ (qs : List FindRequest) (j : Nat) (w w' : FindWalk)
    (more : List FindAnswer) (f : Option Error), Served D S p₀ j w →
    refill (.int S) w (qs.map (answer D) ++ more) = some (f, w', more, qs) →
    f = none ∧ Served D S p₀ (j + qs.length) w' ∧ (!w'.queue.isEmpty || !w'.more) = true ∧
      w'.yielded = w.yielded ∧
      qs.map position = (List.range qs.length).map (fun i => p₀ + (j + i) * S) ∧
      (qs ≠ [] → (rows ((D.drop p₀).take ((j + qs.length - 1) * S))).length = w.yielded)
  | [], j, w, w', more, f, hT, h => by
    rcases refill_inv h with ⟨hready, rfl, rfl, -, -⟩ |
      ⟨-, ⟨e, rest, -, -, -, -, hqs⟩ | ⟨page, n, rest, qs', -, hqs, -⟩⟩
    · exact ⟨rfl, hT, hready, rfl, rfl, fun h => absurd rfl h⟩
    · cases hqs
    · cases hqs
  | q :: qs, j, w, w', more, f, hT, h => by
    rcases refill_inv h with ⟨-, -, -, -, hqs⟩ |
      ⟨hready, ⟨e, rest, has, -⟩ | ⟨page, n, rest, qs', has, hqs, hr⟩⟩
    · cases hqs
    · -- the server always answers with a page
      simp [answer] at has
    · simp only [List.map_cons, List.cons_append, List.cons.injEq] at has hqs
      obtain ⟨ha, rfl⟩ := has
      obtain ⟨rfl, rfl⟩ := hqs
      have hq : w.queue = [] := by simpa using (Bool.or_eq_false_iff.mp hready).1
      have hmore : w.more = true := by simpa using (Bool.or_eq_false_iff.mp hready).2
      obtain ⟨rfl, hT', hready', hy, hpos, hlast⟩ :=
        refill_served hS _ (j + 1) _ w' more f (receive_served hS hT hq hmore ha) hr
      refine ⟨rfl, ?_, hready', hy, ?_, fun _ => ?_⟩
      · rw [List.length_cons, ← Nat.add_assoc, Nat.add_right_comm]
        exact hT'
      · rw [List.map_cons, hpos, hT.position hmore, List.length_cons, List.range_succ_eq_map]
        simp only [List.map_cons, List.map_map, Nat.add_zero]
        congr 2
        funext i
        simp only [Function.comp_apply, Nat.succ_eq_add_one]
        rw [Nat.add_right_comm j 1 i, Nat.add_assoc]
      · -- the last page was fetched with every row before it handed out
        rcases qs with _ | ⟨q', qs⟩
        · have := hT.fetched
          rw [hq, List.length_nil, Nat.add_zero] at this
          simpa using this.symm
        · rw [List.length_cons, ← Nat.add_assoc, Nat.add_right_comm j]
          exact hlast nofun

theorem Served.yielded_le (hT : Served D S p₀ j w) :
    w.yielded ≤ (rows (D.drop p₀)).length := by
  have hsub : (rows ((D.drop p₀).take (j * S))).length ≤ (rows (D.drop p₀)).length :=
    ((List.take_sublist _ _).filter _).length_le
  have := hT.fetched
  omega

section Hand

variable {adapter : Adapter} {decode : Value → Value}

theorem hand_served
    (hdec : ∀ d ∈ D, Database.handedOut d = true → adapter.fromEnvelope d = .ok (decode d))
    (hT : Served D S p₀ j w) (hready : (!w.queue.isEmpty || !w.more) = true) :
    (hand adapter w).1 = .ok (((rows (D.drop p₀)).map decode)[w.yielded]?) ∧
      Served D S p₀ j (hand adapter w).2 ∧
      (hand adapter w).2.yielded = min (w.yielded + 1) (rows (D.drop p₀)).length ∧
      (hand adapter w).2.more = w.more ∧
      (w.yielded = (rows (D.drop p₀)).length → (hand adapter w).2.more = false) := by
  have hle := hT.yielded_le
  have hpend := hT.pending
  cases hq : w.queue with
  | nil =>
    -- nothing queued: no page is due, and every row has been handed out
    have hmore : w.more = false := by simpa [hq] using hready
    have hdone : (rows (D.drop p₀)).drop w.yielded = [] := by
      rw [← hpend]
      simp [pending, hq, hmore]
    have hy : w.yielded = (rows (D.drop p₀)).length := by
      have := List.drop_eq_nil_iff.mp hdone
      omega
    rw [hand_nil adapter hq]
    refine ⟨?_, hT, by dsimp only; omega, rfl, fun _ => hmore⟩
    rw [hy, List.getElem?_eq_none (by simp)]
  | cons env rest =>
    -- the head of the queue is the next row of the list
    have hdrop : (rows (D.drop p₀)).drop w.yielded =
        env :: (rest ++ if w.more then rows (D.drop (position w.query)) else []) := by
      rw [← hpend]
      simp [pending, hq]
    have hat : (rows (D.drop p₀))[w.yielded]? = some env := by
      rw [← List.head?_drop, hdrop]
      rfl
    have hlt : w.yielded < (rows (D.drop p₀)).length := (List.getElem?_eq_some_iff.mp hat).1
    have hmem : env ∈ rows (D.drop p₀) := List.mem_of_getElem? hat
    obtain ⟨hin, hout⟩ := List.mem_filter.mp hmem
    rw [hand_decoded adapter hq (hdec env (List.mem_of_mem_drop hin) hout)]
    refine ⟨by simp [hat], ⟨hT.limit, hT.named, hT.resumes, hT.position, hT.full, hT.ended,
      ?_, ?_⟩, by dsimp only; omega, rfl, by omega⟩
    · simp only [pending]
      rw [← List.drop_drop, hdrop]
      rfl
    · have := hT.fetched
      rw [hq, List.length_cons] at this
      dsimp only
      omega

end Hand

theorem Served.rows_at_last (hT : Served D S p₀ j w) (hq : w.queue = [])
    (hskip : w.query.skip = .null) :
    rows (D.drop (FindServer.start w.last)) = (rows (D.drop p₀)).drop w.yielded := by
  rw [← hT.pending]
  cases hmore : w.more
  · -- no page is due: the last bookmark names a position past every row
    have hend := (hT.ended hmore).2
    rw [hskip, count_null, Nat.add_zero] at hend
    simp [FindWalk.pending, hq, hmore, hend]
  · -- the next request resumes at the last bookmark
    simp [FindWalk.pending, hq, hmore, FindServer.position, hT.resumes hmore, hskip]

end Pages

/-- A cap on results as a count, or none. -/
def capValue : Option Nat → Value
  | none => .null
  | some m => .int m

/-- What a cap leaves of the documents: all of them, or the first `m`. -/
def underCap {α : Type} : Option Nat → List α → List α
  | none, xs => xs
  | some m, xs => xs.take m

@[simp] theorem capped_none (y : Nat) : capped (capValue none) y = false := rfl

@[simp] theorem capped_some (m y : Nat) : capped (capValue (some m)) y = decide (m ≤ y) := by
  simp [capped, capValue, FindCursor.reached, FindCursor.atMost, Value.asInt?]

theorem length_underCap_le {α : Type} (cap : Option Nat) (xs : List α) :
    (underCap cap xs).length ≤ xs.length := by
  cases cap with
  | none => exact Nat.le_refl _
  | some m => exact List.length_take_le' _ _

theorem length_underCap_of_capped {α : Type} {cap : Option Nat} {y : Nat} (xs : List α)
    (hcap : capped (capValue cap) y = false) :
    min (y + 1) (underCap cap xs).length = min (y + 1) xs.length := by
  cases cap with
  | none => rfl
  | some m =>
    have hy : y < m := by simpa using hcap
    simp only [underCap, List.length_take]
    omega

section Calls

variable {D : List Value} {S p₀ j : Nat} {w : FindWalk} {cap : Option Nat}

theorem Served.due (hT : Served D S p₀ j w) : (j - 1) * S ≤ D.length - p₀ := by
  cases hmore : w.more
  · obtain ⟨hcount, -⟩ := hT.ended hmore
    rw [hcount, Nat.add_sub_cancel]
    exact Nat.div_mul_le_self _ _
  · have := hT.full hmore
    have : (j - 1) * S ≤ j * S := Nat.mul_le_mul_right _ (Nat.sub_le _ _)
    omega

/-- A served walk between calls under the cap `cap`. -/
structure Live (D : List Value) (S p₀ : Nat) (cap : Option Nat) (j : Nat) (w : FindWalk) :
    Prop where
  served : Served D S p₀ j w
  within : ∀ m, cap = some m → w.yielded ≤ m
  below : ∀ m, cap = some m → 0 < j → (rows ((D.drop p₀).take ((j - 1) * S))).length < m

/-- A walk stopped by the cap `m` after `j` pages. -/
structure Stopped (D : List Value) (S p₀ m j : Nat) (w : FindWalk) : Prop where
  yielded : w.yielded = m
  reached : m ≤ (rows ((D.drop p₀).take (j * S))).length
  below : 0 < j → (rows ((D.drop p₀).take ((j - 1) * S))).length < m
  due : (j - 1) * S ≤ D.length - p₀

/-- A walk against the server between calls: live, or stopped by its cap. -/
def Walking (D : List Value) (S p₀ : Nat) (cap : Option Nat) (j : Nat) (w : FindWalk) : Prop :=
  Live D S p₀ cap j w ∨ ∃ m, cap = some m ∧ Stopped D S p₀ m j w

/-- A walk that makes no further request: its pages have ended, or its cap stopped it. -/
def Finished (D : List Value) (S p₀ : Nat) (cap : Option Nat) (j : Nat) (w : FindWalk) : Prop :=
  (Live D S p₀ cap j w ∧ w.more = false) ∨ ∃ m, cap = some m ∧ Stopped D S p₀ m j w

theorem walking_start (D : List Value) (S : Nat) (cap : Option Nat) (q : FindRequest)
    (hq : q.bookmark = .null ∨ ∃ m, q.bookmark = bookmark m) :
    Walking D S (position q) cap 0 (start q (.int S)) :=
  .inl ⟨served_start D S q hq, fun _ _ => Nat.zero_le _, fun _ _ h => absurd h (Nat.lt_irrefl 0)⟩

theorem Walking.live (hw : Walking D S p₀ none j w) : Live D S p₀ none j w := by
  rcases hw with hL | ⟨m, hm, -⟩
  · exact hL
  · cases hm

theorem Walking.yielded_le {decode : Value → Value} (hw : Walking D S p₀ cap j w) :
    w.yielded ≤ (underCap cap ((rows (D.drop p₀)).map decode)).length := by
  rcases hw with hL | ⟨m, rfl, hs⟩
  · have := hL.served.yielded_le
    cases cap with
    | none => simpa [underCap] using this
    | some m =>
      have := hL.within m rfl
      simp only [underCap, List.length_take, List.length_map]
      omega
  · have hsub : (rows ((D.drop p₀).take (j * S))).length ≤ (rows (D.drop p₀)).length :=
      ((List.take_sublist _ _).filter _).length_le
    have := hs.reached
    simp only [underCap, List.length_take, List.length_map]
    rw [hs.yielded]
    omega

theorem stopped_of_capped (hw : Walking D S p₀ cap j w)
    (hcap : capped (capValue cap) w.yielded = true) :
    ∃ m, cap = some m ∧ Stopped D S p₀ m j { w with more := false, queue := [] } := by
  cases cap with
  | none => simp at hcap
  | some m =>
    have hm : m ≤ w.yielded := by simpa using hcap
    refine ⟨m, rfl, ?_⟩
    rcases hw with hL | ⟨m', hm', hs⟩
    · have hy : w.yielded = m := Nat.le_antisymm (hL.within m rfl) hm
      have := hL.served.fetched
      exact ⟨hy, by omega, hL.below m rfl, hL.served.due⟩
    · cases hm'
      exact ⟨hs.yielded, hs.reached, hs.below, hs.due⟩

theorem underCap_getElem? {α : Type} {xs : List α} {y : Nat}
    (hcap : capped (capValue cap) y = false) : (underCap cap xs)[y]? = xs[y]? := by
  cases cap with
  | none => rfl
  | some m =>
    have hy : y < m := by simpa using hcap
    simp [underCap, hy]

section Call

variable {adapter : Adapter} {decode : Value → Value}

theorem call_walking (hS : 0 < S)
    (hdec : ∀ d ∈ D, Database.handedOut d = true → adapter.fromEnvelope d = .ok (decode d))
    (hw : Walking D S p₀ cap j w) {w' : FindWalk} {qs : List FindRequest}
    {more : List FindAnswer} {out : Except Error (Option Value)}
    (h : call (.int S) (capValue cap) adapter w (qs.map (answer D) ++ more) =
      some (out, w', more, qs)) :
    let Z := underCap cap ((rows (D.drop p₀)).map decode)
    out = .ok Z[w.yielded]? ∧ Walking D S p₀ cap (j + qs.length) w' ∧
      w'.yielded = min (w.yielded + 1) Z.length ∧
      qs.map position = (List.range qs.length).map (fun i => p₀ + (j + i) * S) ∧
      (w.yielded = Z.length → Finished D S p₀ cap (j + qs.length) w') ∧
      (Finished D S p₀ cap j w → qs = [] ∧ Finished D S p₀ cap j w') := by
  intro Z
  have hle : w.yielded ≤ Z.length := hw.yielded_le
  rcases call_inv h with ⟨hcap, rfl, rfl, -, rfl⟩ | ⟨hcap, f, w₁, hr, hout⟩
  · -- at the cap: none, nothing sent, and the walk is stopped
    obtain ⟨m, rfl, hs⟩ := stopped_of_capped hw hcap
    have hZ : Z.length = w.yielded := by
      have hm := hs.yielded
      simp only [Z, underCap, List.length_take, List.length_map] at hle ⊢
      dsimp only at hm
      omega
    refine ⟨by rw [List.getElem?_eq_none (by omega)], .inr ⟨m, rfl, hs⟩, by dsimp only; omega,
      rfl, fun _ => .inr ⟨m, rfl, hs⟩, fun _ => ⟨rfl, .inr ⟨m, rfl, hs⟩⟩⟩
  · -- below the cap the walk is live: it fetches what is due and hands out the head
    have hL : Live D S p₀ cap j w := by
      rcases hw with hL | ⟨m, rfl, hs⟩
      · exact hL
      · simp [hs.yielded] at hcap
    obtain ⟨rfl, hT₁, hready, hy, hpos, hlast⟩ := refill_served hS qs j w w₁ more f hL.served hr
    rcases hout with ⟨e, he, -⟩ | ⟨-, rfl, rfl⟩
    · cases he
    obtain ⟨hout, hT', hy', hmore', hend⟩ := hand_served hdec hT₁ hready
    have hZ : ∀ m, cap = some m → w.yielded < m := by
      rintro m rfl
      simpa using hcap
    have hyZ : min (w.yielded + 1) (rows (D.drop p₀)).length = min (w.yielded + 1) Z.length := by
      rw [length_underCap_of_capped _ hcap, List.length_map]
    have hwithin : ∀ m, cap = some m → (hand adapter w₁).2.yielded ≤ m := by
      intro m hm
      have := hZ m hm
      rw [hy', hy]
      omega
    -- the last page, if this call fetched one, was fetched below the cap
    have hbelow : ∀ m, cap = some m → 0 < j + qs.length →
        (rows ((D.drop p₀).take ((j + qs.length - 1) * S))).length < m := by
      intro m hm hj
      rcases qs with _ | ⟨q, qs⟩
      · exact hL.below m hm hj
      · rw [hlast nofun]
        exact hZ m hm
    refine ⟨?_, .inl ⟨hT', hwithin, hbelow⟩, by rw [hy', hy, hyZ], hpos, fun hyl => ?_, fun hfin => ?_⟩
    · rw [hout, hy, underCap_getElem? hcap]
    · -- nothing was left to hand out: no page is due any more
      have hall : w.yielded = (rows (D.drop p₀)).length := by
        have hmin := length_underCap_of_capped ((rows (D.drop p₀)).map decode) hcap
        have hZle := length_underCap_le cap ((rows (D.drop p₀)).map decode)
        simp only [List.length_map] at hmin hZle
        simp only [Z] at hyl
        omega
      exact .inl ⟨⟨hT', hwithin, hbelow⟩, hend (hy ▸ hall)⟩
    · -- a finished live walk has no page due, so it fetches nothing
      rcases hfin with ⟨-, hdone⟩ | ⟨m, rfl, hs⟩
      · rcases refill_inv hr with ⟨-, -, rfl, -, rfl⟩ | ⟨hready', -⟩
        · refine ⟨rfl, .inl ⟨⟨hT', ?_, hL.below⟩, by rw [hmore', hdone]⟩⟩
          intro m hm
          have := hZ m hm
          rw [hy']
          omega
        · simp [hdone] at hready'
      · simp [hs.yielded] at hcap

theorem getElem?_shift {α : Type} {Z : List α} {y y₁ : Nat} (hy : y ≤ Z.length)
    (hy₁ : y₁ = min (y + 1) Z.length) (i : Nat) : Z[y₁ + i]? = Z[y + (i + 1)]? := by
  by_cases hlt : y < Z.length
  · rw [hy₁, Nat.min_eq_left hlt]
    congr 1
    omega
  · rw [List.getElem?_eq_none (by omega), List.getElem?_eq_none (by omega)]

theorem calls_walking (hS : 0 < S)
    (hdec : ∀ d ∈ D, Database.handedOut d = true → adapter.fromEnvelope d = .ok (decode d)) :
    ∀ (n j : Nat) (w w' : FindWalk) (qs : List FindRequest) (more : List FindAnswer)
      (outs : List (Except Error (Option Value))), Walking D S p₀ cap j w →
    calls (.int S) (capValue cap) adapter n w (qs.map (answer D) ++ more) =
      some (outs, w', more, qs) →
    let Z := underCap cap ((rows (D.drop p₀)).map decode)
    outs = (List.range n).map (fun i => .ok Z[w.yielded + i]?) ∧
      Walking D S p₀ cap (j + qs.length) w' ∧ w'.yielded = min (w.yielded + n) Z.length ∧
      qs.map position = (List.range qs.length).map (fun i => p₀ + (j + i) * S) ∧
      (Z.length < w.yielded + n → Finished D S p₀ cap (j + qs.length) w') ∧
      (Finished D S p₀ cap j w → qs = [] ∧ Finished D S p₀ cap j w')
  | 0, j, w, w', qs, more, outs, hw, h => by
    intro Z
    have hle : w.yielded ≤ Z.length := hw.yielded_le
    rw [calls] at h
    simp only [Option.some.injEq, Prod.mk.injEq] at h
    obtain ⟨rfl, rfl, -, rfl⟩ := h
    refine ⟨rfl, hw, by omega, rfl, fun hlt => absurd hlt (by omega), fun hfin => ⟨rfl, hfin⟩⟩
  | n + 1, j, w, w', qs, more, outs, hw, h => by
    intro Z
    obtain ⟨out, w₁, as₁, qs₁, outs', qs₂, hc, hcs, rfl, rfl⟩ := calls_succ_inv h
    -- the call used the answers to its own requests and left those of the later calls
    have has₁ : as₁ = qs₂.map (answer D) ++ more := by
      rw [call_rest hc, List.map_append, List.append_assoc, List.drop_left' (List.length_map ..)]
    subst has₁
    rw [List.map_append, List.append_assoc] at hc
    obtain ⟨hout, hw₁, hy₁, hpos₁, hfin₁, hkeep₁⟩ := call_walking hS hdec hw hc
    obtain ⟨houts, hw', hy', hpos₂, hfin', hkeep'⟩ :=
      calls_walking hS hdec n (j + qs₁.length) w₁ w' qs₂ more outs' hw₁ hcs
    have hle : w.yielded ≤ Z.length := hw.yielded_le
    refine ⟨?_, ?_, ?_, ?_, fun hlt => ?_, fun hfin => ?_⟩
    · rw [hout, houts, List.range_succ_eq_map, List.map_cons, List.map_map]
      congr 1
      apply List.map_congr_left
      intro i _
      simp only [Function.comp_apply, Nat.succ_eq_add_one]
      rw [getElem?_shift hle hy₁ i]
    · rw [List.length_append, ← Nat.add_assoc]
      exact hw'
    · rw [hy', hy₁]
      simp only [Z] at hle ⊢
      omega
    · rw [List.map_append, hpos₁, hpos₂, List.length_append, List.range_add, List.map_append,
        List.map_map]
      congr 1
      apply List.map_congr_left
      intro i _
      simp only [Function.comp_apply, Nat.add_assoc]
    · -- the walk has gone past the last document, in this call or in a later one
      by_cases hyZ : w.yielded = Z.length
      · obtain ⟨rfl, hf⟩ := hkeep' (hfin₁ hyZ)
        rw [List.append_nil]
        exact hf
      · rw [List.length_append, ← Nat.add_assoc]
        simp only [Z] at hle hyZ hlt
        exact hfin' (by rw [hy₁]; omega)
    · obtain ⟨rfl, hf₁⟩ := hkeep₁ hfin
      obtain ⟨rfl, hf'⟩ := hkeep' (by simpa using hf₁)
      exact ⟨rfl, hf'⟩

theorem Finished.pages_of_uncapped (hF : Finished D S p₀ none j w) :
    j = (D.length - p₀) / S + 1 := by
  rcases hF with ⟨hL, hmore⟩ | ⟨m, hm, -⟩
  · exact (hL.served.ended hmore).1
  · cases hm

theorem rows_eq_self (hdesign : ∀ d ∈ D, Database.handedOut d = true) (k : Nat) :
    (rows ((D.drop p₀).take k)).length = min k (D.length - p₀) := by
  rw [rows, List.filter_eq_self.mpr, List.length_take, List.length_drop]
  intro d hd
  exact hdesign d (List.mem_of_mem_drop (List.mem_of_mem_take hd))

theorem Finished.pages_of_capped (hS : 0 < S) (hdesign : ∀ d ∈ D, Database.handedOut d = true)
    {m : Nat} (hF : Finished D S p₀ (some m) j w) :
    j = min ((D.length - p₀) / S + 1) ((m + S - 1) / S) := by
  -- the last page was fetched below the cap, and it was due
  have hlast : ∀ (below : 0 < j → (rows ((D.drop p₀).take ((j - 1) * S))).length < m),
      (j - 1) * S ≤ D.length - p₀ → 0 < j → j ≤ (m + S - 1) / S := by
    intro below hdue hj
    have hrows : (rows ((D.drop p₀).take ((j - 1) * S))).length =
        min ((j - 1) * S) (D.length - p₀) := rows_eq_self hdesign _
    have hlt := below hj
    have hstep : (j - 1) * S + S = j * S := by
      rw [← Nat.succ_mul, Nat.succ_eq_add_one, Nat.sub_add_cancel hj]
    rw [Nat.le_div_iff_mul_le hS]
    omega
  rcases hF with ⟨hL, hmore⟩ | ⟨m', hm, hs⟩
  · -- the pages ended first: all of them were asked for, within what the cap needs
    have hcount := (hL.served.ended hmore).1
    have hle := hlast (hL.below m rfl) hL.served.due (by rw [hcount]; exact Nat.succ_pos _)
    rw [Nat.min_eq_left (by omega)]
    exact hcount
  · -- the cap stopped the walk: it asked for the pages that hold the first `m` rows
    cases hm
    have hreach := hs.reached
    rw [rows_eq_self hdesign (j * S)] at hreach
    have hP : j ≤ (D.length - p₀) / S + 1 := by
      have hdue := hs.due
      rcases Nat.eq_zero_or_pos j with hj | hj
      · rw [hj]
        exact Nat.zero_le _
      · have : j - 1 ≤ (D.length - p₀) / S := (Nat.le_div_iff_mul_le hS).mpr hdue
        omega
    have hceil : (m + S - 1) / S = j := by
      rcases Nat.eq_zero_or_pos j with rfl | hj
      · have : m = 0 := by simp at hreach; omega
        subst this
        exact Nat.div_eq_of_lt (by omega)
      · have hle := hlast hs.below hs.due hj
        have hge : m + S - 1 < (j + 1) * S := by
          rw [Nat.succ_mul]
          omega
        exact Nat.le_antisymm (Nat.lt_succ_iff.mp ((Nat.div_lt_iff_lt_mul hS).mpr hge)) hle
    rw [hceil, Nat.min_eq_right hP]

theorem walk_on_list (hS : 0 < S)
    (hdec : ∀ d ∈ D, Database.handedOut d = true → adapter.fromEnvelope d = .ok (decode d))
    {q : FindRequest} (hq : q.bookmark = .null ∨ ∃ m, q.bookmark = bookmark m) {n : Nat}
    {queries : List FindRequest} {outs : List (Except Error (Option Value))}
    (h : calls (.int S) (capValue cap) adapter n (start q (.int S)) (queries.map (answer D)) =
      some (outs, w, [], queries)) :
    let R := underCap cap ((rows (D.drop (position q))).map decode)
    outs = (List.range n).map (fun i => .ok R[i]?) ∧
      queries.map position = (List.range queries.length).map (fun i => position q + i * S) ∧
      Walking D S (position q) cap queries.length w ∧ w.yielded = min n R.length ∧
      (R.length < n → Finished D S (position q) cap queries.length w) ∧
      (q.skip = .null → w.query.skip = .null) := by
  intro R
  rw [← List.append_nil (queries.map (answer D))] at h
  obtain ⟨houts, hw, hy, hpos, hfin, -⟩ :=
    calls_walking hS hdec n 0 _ w queries [] outs (walking_start D S cap q hq) h
  simp only [start, Nat.zero_add] at houts hy hpos hfin hw
  exact ⟨houts, hpos, hw, hy, hfin, fun hskip => calls_skip n h hskip⟩

end Call

end Calls

end FindWalk

namespace FindCursor

open FindServer FindWalk

theorem create_int (db : Database) (q : FindRequest) {S : Nat} (hS : 0 < S) (cap : Option Nat) :
    create db q (.int S) (capValue cap) =
      .ok { db, query := { q with limit := .int S }, pageSize := .int S,
            maxResults := capValue cap, bookmark := q.bookmark } := by
  have hS' : S ≠ 0 := by omega
  have hnn : ∀ n : Nat, ¬((n : Int) < 0) := fun n => by omega
  cases cap <;> simp [create, Value.truthy, hS', hnn, atMost, Value.asInt?, FindRequest.withLimit,
    Value.isNegative, capValue, bind, Except.bind, pure, Except.pure]

theorem traversal_exchanges (db : Database) (q : FindRequest) {S : Nat} (hS : 0 < S)
    (cap : Option Nat) (depth n : Nat) (s : Session) :
    let c : FindCursor := { db, query := { q with limit := .int S }, pageSize := .int S,
                            maxResults := capValue cap, bookmark := q.bookmark }
    let run := (nextCalls depth n c).run s
    ∃ (queries : List FindRequest) (answers : List FindAnswer) (w : FindWalk),
      FindWalk.calls (.int S) (capValue cap) db.adapter n (FindWalk.start q (.int S)) answers =
        some (run.1.1, w, [], queries) ∧
      queries.length = answers.length ∧ db.Fetches (depth + 2) s (queries.zip answers) run.2 ∧
      Tracks db (.int S) (capValue cap) run.1.2 w := by
  intro c run
  have hsize : (Value.int S).truthy = true := by simp [Value.truthy]; omega
  obtain ⟨answers, queries, w, hcalls, hlen, hfetch, hT⟩ :=
    traversal_follows_reference (create_int db q hS cap) depth n s
  simp only [hsize, if_true] at hcalls hT
  exact ⟨queries, answers, w, hcalls, hlen, hfetch, hT⟩

theorem traversal_resumes_at_bookmark {db : Database} {D : List Value} {decode : Value → Value}
    {q : FindRequest} {S : Nat} (hS : 0 < S)
    (hq : q.bookmark = .null ∨ ∃ m, q.bookmark = FindServer.bookmark m) (hskip : q.skip = .null)
    (hdec : ∀ d ∈ D, Database.handedOut d = true → db.adapter.fromEnvelope d = .ok (decode d))
    (depth n n' : Nat) (s : Session) :
    let c : FindCursor := { db, query := { q with limit := .int S }, pageSize := .int S,
                            maxResults := .null, bookmark := q.bookmark }
    let run := (nextCalls depth n c).run s
    let q' := q.withBookmark run.1.2.bookmark
    let c' : FindCursor := { db, query := { q' with limit := .int S }, pageSize := .int S,
                             maxResults := .null, bookmark := q'.bookmark }
    let run' := (nextCalls depth n' c').run run.2
    let R := (FindServer.rows (D.drop (position q))).map decode
    run.1.2.rows = [] →
    ∃ (queries queries' : List FindRequest) (answers answers' : List FindAnswer),
      queries.length = answers.length ∧ db.Fetches (depth + 2) s (queries.zip answers) run.2 ∧
      queries'.length = answers'.length ∧
      db.Fetches (depth + 2) run.2 (queries'.zip answers') run'.2 ∧
      (answers = queries.map (answer D) → answers' = queries'.map (answer D) →
        run'.1.1 = (List.range n').map (fun i => .ok R[min n R.length + i]?)) := by
  intro c run q' c' run' R hrows
  obtain ⟨queries, answers, w, hcalls, hlen, hfetch, hT⟩ := traversal_exchanges db q hS none depth n s
  obtain ⟨queries', answers', w', hcalls', hlen', hfetch', -⟩ :=
    traversal_exchanges db q' hS none depth n' run.2
  refine ⟨queries, queries', answers, answers', hlen, hfetch, hlen', hfetch', fun hans hans' => ?_⟩
  subst hans hans'
  obtain ⟨-, -, hw, hy, -, hsk⟩ := FindWalk.walk_on_list hS hdec hq hcalls
  have hT₁ := hw.live.served
  -- the fresh request starts where the last bookmark names
  have hbm : run.1.2.bookmark = w.last := hT.bookmark
  have hq' : q'.bookmark = .null ∨ ∃ m, q'.bookmark = FindServer.bookmark m := by
    show run.1.2.bookmark = _ ∨ ∃ m, run.1.2.bookmark = _
    rw [hbm]
    exact hT₁.named
  have hpos' : position q' = FindServer.start w.last := by
    simp [position, q', FindRequest.withBookmark, hbm, hskip]
  -- and there lie the rows after those taken
  have hrest := hT₁.rows_at_last (hT.rows.symm.trans hrows) (hsk hskip)
  obtain ⟨houts', -⟩ := FindWalk.walk_on_list hS hdec hq' hcalls'
  refine houts'.trans (List.map_congr_left fun i _ => ?_)
  simp only [underCap, hpos', hrest, hy]
  rw [List.map_drop, List.getElem?_drop]

/-- A traversal against the server holding `D` hands out each document once, up to the cap. -/
theorem traversal_pages_through_list {db : Database} {D : List Value} {decode : Value → Value}
    {q : FindRequest} {S : Nat} (hS : 0 < S)
    (hq : q.bookmark = .null ∨ ∃ m, q.bookmark = FindServer.bookmark m)
    (hdec : ∀ d ∈ D, Database.handedOut d = true → db.adapter.fromEnvelope d = .ok (decode d)) :
    (∀ (cap : Option Nat) (depth n : Nat) (s : Session),
      ∃ c, create db q (.int S) (capValue cap) = .ok c ∧
        let run := (nextCalls depth n c).run s
        let R := underCap cap ((FindServer.rows (D.drop (position q))).map decode)
        let P := (D.length - position q) / S + 1
        ∃ (queries : List FindRequest) (answers : List FindAnswer),
          queries.length = answers.length ∧ db.Fetches (depth + 2) s (queries.zip answers) run.2 ∧
          (answers = queries.map (answer D) →
            run.1.1 = (List.range n).map (fun i => .ok R[i]?) ∧
            queries.map position = (List.range queries.length).map (fun i => position q + i * S) ∧
            (R.length < n → cap = none → queries.length = P) ∧
            (R.length < n → (∀ d ∈ D, Database.handedOut d = true) → ∀ m, cap = some m →
              queries.length = min P ((m + S - 1) / S)))) ∧
    (q.skip = .null → ∀ (depth n n' : Nat) (s : Session),
      ∃ c, create db q (.int S) .null = .ok c ∧
        let run := (nextCalls depth n c).run s
        ∃ c', create db (q.withBookmark run.1.2.bookmark) (.int S) .null = .ok c' ∧
          let run' := (nextCalls depth n' c').run run.2
          let R := (FindServer.rows (D.drop (position q))).map decode
          run.1.2.rows = [] →
          ∃ (queries queries' : List FindRequest) (answers answers' : List FindAnswer),
            queries.length = answers.length ∧ db.Fetches (depth + 2) s (queries.zip answers) run.2 ∧
            queries'.length = answers'.length ∧
            db.Fetches (depth + 2) run.2 (queries'.zip answers') run'.2 ∧
            (answers = queries.map (answer D) → answers' = queries'.map (answer D) →
              run'.1.1 = (List.range n').map (fun i => .ok R[min n R.length + i]?))) := by
  refine ⟨fun cap depth n s => ⟨_, create_int db q hS cap, ?_⟩,
    fun hskip depth n n' s => ⟨_, create_int db q hS none, ⟨_, create_int db _ hS none, ?_⟩⟩⟩
  · intro run R P
    obtain ⟨queries, answers, w, hcalls, hlen, hfetch, -⟩ :=
      traversal_exchanges db q hS cap depth n s
    refine ⟨queries, answers, hlen, hfetch, fun hans => ?_⟩
    subst hans
    obtain ⟨houts, hpos, -, -, hfin, -⟩ := FindWalk.walk_on_list hS hdec hq hcalls
    refine ⟨houts, hpos, fun hlt hcap => ?_, fun hlt hdesign m hcap => ?_⟩
    · subst hcap
      exact (hfin hlt).pages_of_uncapped
    · subst hcap
      exact (hfin hlt).pages_of_capped hS hdesign
  · exact traversal_resumes_at_bookmark hS hq hskip hdec depth n n' s

/-- Two raw documents paged through one at a time, and a session serving their pages. -/
theorem traversal_pages_through_two_documents :
    let db : Database := ⟨"users", .envelope⟩
    let D : List Value := [.dict [(.str "_id", .str "a")], .dict [(.str "_id", .str "b")]]
    0 < 1 ∧
    (FindRequest.all.bookmark = .null ∨ ∃ m, FindRequest.all.bookmark = FindServer.bookmark m) ∧
    (∀ d ∈ D, Database.handedOut d = true → db.adapter.fromEnvelope d = .ok (id d)) ∧
    (∀ (cap : Option Nat) (depth n : Nat) (s : Session),
      ∃ c, create db FindRequest.all (.int 1) (capValue cap) = .ok c ∧
        let run := (nextCalls depth n c).run s
        let R := underCap cap ((FindServer.rows (D.drop (position FindRequest.all))).map id)
        let P := (D.length - position FindRequest.all) / 1 + 1
        ∃ (queries : List FindRequest) (answers : List FindAnswer),
          queries.length = answers.length ∧ db.Fetches (depth + 2) s (queries.zip answers) run.2 ∧
          (answers = queries.map (answer D) →
            run.1.1 = (List.range n).map (fun i => .ok R[i]?) ∧
            queries.map position =
              (List.range queries.length).map (fun i => position FindRequest.all + i * 1) ∧
            (R.length < n → cap = none → queries.length = P) ∧
            (R.length < n → (∀ d ∈ D, Database.handedOut d = true) → ∀ m, cap = some m →
              queries.length = min P ((m + 1 - 1) / 1)))) ∧
    (FindRequest.all.skip = .null → ∀ (depth n n' : Nat) (s : Session),
      ∃ c, create db FindRequest.all (.int 1) .null = .ok c ∧
        let run := (nextCalls depth n c).run s
        ∃ c', create db (FindRequest.all.withBookmark run.1.2.bookmark) (.int 1) .null = .ok c' ∧
          let run' := (nextCalls depth n' c').run run.2
          let R := (FindServer.rows (D.drop (position FindRequest.all))).map id
          run.1.2.rows = [] →
          ∃ (queries queries' : List FindRequest) (answers answers' : List FindAnswer),
            queries.length = answers.length ∧ db.Fetches (depth + 2) s (queries.zip answers) run.2 ∧
            queries'.length = answers'.length ∧
            db.Fetches (depth + 2) run.2 (queries'.zip answers') run'.2 ∧
            (answers = queries.map (answer D) → answers' = queries'.map (answer D) →
              run'.1.1 = (List.range n').map (fun i => .ok R[min n R.length + i]?))) ∧
    (let reply : String → Scripted := fun body => .reply ⟨200, [.bytes body.toUTF8.toList]⟩
     let s : Session :=
       { base := { scheme := "http", host := "couch.test", path := "/" }, authorization := none,
         stem := .str "",
         script := [reply "\x7b\"docs\":[\x7b\"_id\":\"a\"\x7d],\"bookmark\":\"1\"\x7d",
                    reply "\x7b\"docs\":[\x7b\"_id\":\"b\"\x7d],\"bookmark\":\"2\"\x7d",
                    reply "\x7b\"docs\":[]\x7d"] }
     ∃ c, create db FindRequest.all (.int 1) (capValue none) = .ok c ∧
       let run := (nextCalls 1 3 c).run s
       ∃ (queries : List FindRequest) (answers : List FindAnswer),
         queries.length = answers.length ∧ db.Fetches 3 s (queries.zip answers) run.2 ∧
         answers = queries.map (answer D)) := by
  intro db D
  have hdec : ∀ d ∈ D, Database.handedOut d = true → db.adapter.fromEnvelope d = .ok (id d) := by
    intro d hd _
    simp only [D, List.mem_cons, List.not_mem_nil, or_false] at hd
    rcases hd with rfl | rfl <;> rfl
  obtain ⟨hpages, hresumes⟩ :=
    traversal_pages_through_list (q := FindRequest.all) (S := 1) (by decide) (.inl rfl) hdec
  refine ⟨by decide, .inl rfl, hdec, hpages, hresumes, ?served⟩
  case served =>
    intro reply s
    -- the three requests of the walk, each made on the session the one before left
    let q₀ : FindRequest := { FindRequest.all with limit := .int 1 }
    let qs := [q₀, q₀.withBookmark (FindServer.bookmark 1), q₀.withBookmark (FindServer.bookmark 2)]
    let F := fun q t => (db.findEnvelopes q 3).run.run t
    let c : FindCursor := { db, query := q₀, pageSize := .int 1, maxResults := capValue none,
                            bookmark := FindRequest.all.bookmark }
    refine ⟨c, create_int db FindRequest.all (by decide) none, qs, qs.map (answer D), rfl, ?_, rfl⟩
    let t₁ := (F qs[0] s).2
    let t₂ := (F qs[1] t₁).2
    let t₃ := (F qs[2] t₂).2
    have h₁ : F qs[0] s = (answer D qs[0], t₁) := Prod.ext (by decide +kernel) rfl
    have h₂ : F qs[1] t₁ = (answer D qs[1], t₂) := Prod.ext (by decide +kernel) rfl
    have h₃ : F qs[2] t₂ = (answer D qs[2], t₃) := Prod.ext (by decide +kernel) rfl
    have hend : ((nextCalls 1 3 c).run s).2 = t₃ := by decide +kernel
    exact ⟨t₁, h₁, t₂, h₂, t₃, h₃, hend⟩

end FindCursor

end DocClient
