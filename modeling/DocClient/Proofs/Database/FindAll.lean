import DocClient.Database.Find
import DocClient.Proofs.Http.Exchange
import DocClient.Proofs.Query.RoundTrip
/-!
# A find traversal follows its reference walk

`FindWalk` is the walk a traversal must take, as a pure function of the server's answers;
`n` calls of `next` send its requests and return its results (`traversal_follows_reference`).
-/
namespace DocClient

instance decEqExcept {ε α : Type} [DecidableEq ε] [DecidableEq α] : DecidableEq (Except ε α)
  | .ok a, .ok b => if h : a = b then isTrue (h ▸ rfl) else isFalse fun e => h (Except.ok.inj e)
  | .error a, .error b =>
    if h : a = b then isTrue (h ▸ rfl) else isFalse fun e => h (Except.error.inj e)
  | .ok _, .error _ => isFalse (by intro e; cases e)
  | .error _, .ok _ => isFalse (by intro e; cases e)

/-- The server's answer to one page request: the page and the count sent, or a failure. -/
abbrev FindAnswer := Except Error (ResultPage × Nat)

/-- The failures that end a traversal at the row that raised them: decoding failures. -/
def Error.endsTraversal : Error → Bool
  | .client ce => ce.kind = .decode
  | _ => false

/-- Where a traversal stands: request, queued rows, a page due, last bookmark, count handed out. -/
structure FindWalk where
  query : FindRequest
  queue : List Value := []
  more : Bool := true
  last : Value
  yielded : Nat := 0

namespace FindWalk

/-- Whether a page of `fetched` documents is full for page size `S`. -/
def full (S : Value) (fetched : Nat) : Bool :=
  match FindCursor.atMost S (.int fetched) with
  | .ok b => b
  | .error _ => false

/-- Whether `yielded` documents reach the cap `M` on results. -/
def capped (M : Value) (yielded : Nat) : Bool :=
  match FindCursor.reached yielded M with
  | .ok b => b
  | .error _ => false

section Reference

variable (S M : Value) (adapter : Adapter)

/-- Take in a page: queue its rows, and decide whether a further page is due. -/
def receive (w : FindWalk) (page : ResultPage) (fetched : Nat) : FindWalk :=
  let goesOn := full S fetched && !(page.bookmark matches .null) && !page.bookmark.eq w.last
  { query := if goesOn then { w.query with bookmark := page.bookmark, skip := .null } else w.query,
    queue := w.queue ++ page.rows,
    more := goesOn,
    last := if page.bookmark matches .null then w.last else page.bookmark,
    yielded := w.yielded }

/-- Fetch pages until a row is queued or none is due; `none` when the answers run out. -/
def refill : FindWalk → List FindAnswer →
    Option (Option Error × FindWalk × List FindAnswer × List FindRequest)
  | w, as =>
    if !w.queue.isEmpty || !w.more then some (none, w, as, [])
    else
      match as with
      | [] => none
      | .error e :: rest => some (some e, w, rest, [w.query])
      | .ok (page, n) :: rest =>
        (refill (w.receive S page n) rest).map fun (f, w', as', qs) => (f, w', as', w.query :: qs)

/-- Hand out the head of the queue, decoded; a decoding failure ends the walk. -/
def hand (w : FindWalk) : Except Error (Option Value) × FindWalk :=
  match w.queue with
  | [] => (.ok none, w)
  | env :: rest =>
    match adapter.fromEnvelope env with
    | .ok doc => (.ok (some doc), { w with queue := rest, yielded := w.yielded + 1 })
    | .error e =>
      if e.endsTraversal then (.error e, { w with queue := [], more := false })
      else (.error e, { w with queue := rest })

/-- One call for a document: nothing past the cap, else a refill and the head of the queue. -/
def call (w : FindWalk) (as : List FindAnswer) :
    Option (Except Error (Option Value) × FindWalk × List FindAnswer × List FindRequest) :=
  if capped M w.yielded then some (.ok none, { w with more := false, queue := [] }, as, [])
  else
    (refill S w as).map fun
      | (some e, w', as', qs) => (.error e, w', as', qs)
      | (none, w', as', qs) => let (out, w'') := hand adapter w'; (out, w'', as', qs)

/-- `n` calls in a row, with their results and requests in order. -/
def calls : Nat → FindWalk → List FindAnswer →
    Option (List (Except Error (Option Value)) × FindWalk × List FindAnswer × List FindRequest)
  | 0, w, as => some ([], w, as, [])
  | n + 1, w, as => do
    let (out, w', as', qs) ← call S M adapter w as
    let (outs, w'', as'', qs') ← calls n w' as'
    pure (out :: outs, w'', as'', qs ++ qs')

/-- The walk before its first page: the request limited to the page size. -/
def start (q : FindRequest) (S : Value) : FindWalk :=
  { query := { q with limit := S }, last := q.bookmark }

theorem receive_of_null {w : FindWalk} {page : ResultPage} {n : Nat}
    (h : page.bookmark = .null) :
    w.receive S page n = { w with queue := w.queue ++ page.rows, more := false } := by
  simp [receive, h]

theorem receive_of_ne {w : FindWalk} {page : ResultPage} {n : Nat}
    (h : page.bookmark ≠ .null) :
    w.receive S page n =
      if full S n && !page.bookmark.eq w.last then
        { w with query := { w.query with bookmark := page.bookmark, skip := .null },
                 queue := w.queue ++ page.rows, more := true, last := page.bookmark }
      else { w with queue := w.queue ++ page.rows, more := false, last := page.bookmark } := by
  have hm : (page.bookmark matches .null) = false := by
    cases hb : page.bookmark <;> simp_all
  unfold receive
  rw [hm]
  simp only [Bool.not_false, Bool.and_true]
  by_cases hg : (full S n && !page.bookmark.eq w.last) = true <;> simp [hg]

section Calls

variable {w w' : FindWalk} {as as' : List FindAnswer} {qs : List FindRequest}

theorem refill_of_ready (h : (!w.queue.isEmpty || !w.more) = true) :
    refill S w as = some (none, w, as, []) := by
  rw [refill.eq_def]
  dsimp only
  rw [if_pos h]

theorem refill_failed {e : Error} (h : (!w.queue.isEmpty || !w.more) = false) :
    refill S w (.error e :: as) = some (some e, w, as, [w.query]) := by
  rw [refill.eq_def]
  dsimp only
  rw [h, if_neg Bool.false_ne_true]

theorem refill_page {page : ResultPage} {n : Nat} {f : Option Error}
    (h : (!w.queue.isEmpty || !w.more) = false)
    (hr : refill S (w.receive S page n) as = some (f, w', as', qs)) :
    refill S w (.ok (page, n) :: as) = some (f, w', as', w.query :: qs) := by
  rw [refill.eq_def]
  dsimp only
  rw [h, if_neg Bool.false_ne_true, hr]
  rfl

theorem call_of_capped (h : capped M w.yielded = true) :
    call S M adapter w as = some (.ok none, { w with more := false, queue := [] }, as, []) := by
  unfold call
  rw [if_pos h]

theorem call_of_failed {e : Error} (hcap : capped M w.yielded = false)
    (h : refill S w as = some (some e, w', as', qs)) :
    call S M adapter w as = some (.error e, w', as', qs) := by
  unfold call
  rw [hcap, if_neg Bool.false_ne_true, h]
  rfl

theorem call_of_refilled (hcap : capped M w.yielded = false)
    (h : refill S w as = some (none, w', as', qs)) :
    call S M adapter w as = some ((hand adapter w').1, (hand adapter w').2, as', qs) := by
  unfold call
  rw [hcap, if_neg Bool.false_ne_true, h]
  rfl

theorem hand_nil (h : w.queue = []) : hand adapter w = (.ok none, w) := by
  unfold hand
  rw [h]

theorem hand_decoded {env doc : Value} {rest : List Value} (h : w.queue = env :: rest)
    (hd : adapter.fromEnvelope env = .ok doc) :
    hand adapter w = (.ok (some doc), { w with queue := rest, yielded := w.yielded + 1 }) := by
  unfold hand
  rw [h]
  dsimp only
  rw [hd]

theorem hand_failed {env : Value} {rest : List Value} {e : Error} (h : w.queue = env :: rest)
    (hd : adapter.fromEnvelope env = .error e) :
    hand adapter w = (.error e, if e.endsTraversal then { w with queue := [], more := false }
      else { w with queue := rest }) := by
  unfold hand
  rw [h]
  dsimp only
  rw [hd]
  dsimp only
  by_cases he : e.endsTraversal = true
  · rw [if_pos he, if_pos he]
  · rw [if_neg he, if_neg he]

end Calls

end Reference

end FindWalk

namespace Database

/-- A page's bookmark as a traversal keeps it: a missing, empty or `nil` one is none. -/
def usableBookmark (mark : Value) : Value :=
  if !mark.truthy || mark.eq (.str "nil") then .null else mark

/-- The rows of a page: every document but a design document. -/
def handedOut : Value → Bool
  | .dict r => !isDesignId (Value.getD r "_id")
  | _ => true

theorem findEnvelopes_ok {db : Database} {q : FindRequest} {d : Nat} {t t' : Session}
    {page : ResultPage} {n : Nat} (h : (db.findEnvelopes q d).run.run t = (.ok (page, n), t')) :
    ∃ p body b status es, db.path [.str "_find"] = .ok p ∧ q.toBody = .ok body ∧
      jsonBody (d + 1) (.dict body) = .ok b ∧
      (request (d + 1) (.str "find") .null "POST" p [] b).run.run t = (.ok (status, .dict es), t') ∧
      status < 400 ∧ (Value.getD es "error").truthy = false ∧
      ((Value.getD es "docs" = .null ∧ page = {} ∧ n = 0) ∨
        ∃ docs, Value.getD es "docs" = .list docs ∧ n = docs.length ∧
          page = { rows := docs.filter handedOut, bookmark := usableBookmark (Value.getD es "bookmark"),
                   warning := Value.getD es "warning" }) := by
  unfold findEnvelopes at h
  obtain ⟨p, t₁, hp, h⟩ := run_bind_ok h
  obtain ⟨body, t₂, hbody, h⟩ := run_bind_ok h
  obtain ⟨b, t₃, hb, h⟩ := run_bind_ok h
  rw [Call.run_lift, Prod.mk.injEq] at hp hbody hb
  obtain ⟨hp, rfl⟩ := hp
  obtain ⟨hbody, rfl⟩ := hbody
  obtain ⟨hb, rfl⟩ := hb
  obtain ⟨⟨status, reply⟩, t₄, hreq, h⟩ := run_bind_ok h
  dsimp only at h
  split at h
  · exact (run_throw_bind h).elim
  rename_i hstatus
  -- an object without a truthy error, whose documents are a list or missing
  split at h
  · rename_i es
    obtain ⟨es', t₅, hpure, h⟩ := run_bind_ok h
    cases hpure
    split at h
    · exact (run_throw_bind h).elim
    rename_i herr
    split at h
    · rename_i hdocs
      cases h
      exact ⟨p, body, b, status, es, hp, hbody, hb, hreq, by omega, by simpa using herr,
        .inl ⟨hdocs, rfl, rfl⟩⟩
    · rename_i docs hdocs
      cases h
      refine ⟨p, body, b, status, es, hp, hbody, hb, hreq, by omega, by simpa using herr,
        .inr ⟨docs, hdocs, rfl, rfl⟩⟩
    · cases h
  · exact (run_throw_bind h).elim

theorem findEnvelopes_sends_one {db : Database} {q : FindRequest} {d : Nat} {t t' : Session}
    {page : ResultPage} {n : Nat} (h : (db.findEnvelopes q d).run.run t = (.ok (page, n), t')) :
    ∃ (req : Request) (r : Reply), req.method = "POST" ∧ t'.sent = t.sent ++ [req] ∧
      t.script = .reply r :: t'.script := by
  obtain ⟨p, body, b, status, es, -, -, -, hreq, -⟩ := findEnvelopes_ok h
  obtain ⟨req, r, hm, -, hsent, hscript⟩ := Session.request_sends_one hreq
  exact ⟨req, r, hm, hsent, hscript⟩

/-- The find requests of a run with their answers, each on the session the one before left. -/
def Fetches (db : Database) (depth : Nat) : Session → List (FindRequest × FindAnswer) → Session → Prop
  | s, [], s' => s' = s
  | s, (q, a) :: rest, s' => ∃ t, (db.findEnvelopes q depth).run.run s = (a, t) ∧ Fetches db depth t rest s'

theorem fetches_append {db : Database} {depth : Nat} {t t₁ t₂ : Session}
    {l₁ l₂ : List (FindRequest × FindAnswer)}
    (h₁ : db.Fetches depth t l₁ t₁) (h₂ : db.Fetches depth t₁ l₂ t₂) :
    db.Fetches depth t (l₁ ++ l₂) t₂ := by
  induction l₁ generalizing t with
  | nil =>
    cases h₁
    exact h₂
  | cons x l₁ ih =>
    obtain ⟨t', hx, hrest⟩ := h₁
    exact ⟨t', hx, ih hrest⟩

end Database

namespace FindCursor

theorem atMost_int_ok {S : Value} {b : Bool} (h : atMost S (.int 0) = .ok b) (n : Nat) :
    ∃ b', atMost S (.int n) = .ok b' := by
  unfold atMost at h ⊢
  cases S <;> simp_all [Value.asInt?]

theorem reached_ok {M : Value} (hM : M = .null ∨ ∃ v, M.isNegative = .ok v) (y : Nat) :
    ∃ b, reached y M = .ok b := by
  rcases hM with rfl | ⟨v, hv⟩
  · exact ⟨false, rfl⟩
  · unfold reached atMost
    cases M <;> simp_all [Value.isNegative, Value.asInt?]

theorem create_ok {db : Database} {q : FindRequest} {pageSize maxResults : Value} {c : FindCursor}
    (h : create db q pageSize maxResults = .ok c) :
    let S := if pageSize.truthy then pageSize else if q.limit.truthy then q.limit else .int 1000
    c = { db, query := { q with limit := S }, pageSize := S, maxResults, bookmark := q.bookmark } ∧
      (∀ n : Nat, ∃ b, atMost S (.int n) = .ok b) ∧ (∀ y : Nat, ∃ b, reached y maxResults = .ok b) := by
  intro S
  unfold create at h
  simp only [bind, Except.bind] at h
  have hS : (if pageSize.truthy then pageSize else if q.limit.truthy then q.limit else .int 1000) = S := rfl
  rw [hS] at h
  rcases hat : atMost S (.int 0) with e | v
  · rw [hat] at h
    cases h
  rw [hat] at h
  cases v with
  | true => cases h
  | false =>
  simp only [Bool.false_eq_true, if_false] at h
  -- past the size check: the limit is set the same way with or without a cap
  rcases hl : q.withLimit S with e | q'
  · rw [hl] at h
    split at h
    · cases h
    · rcases hneg : maxResults.isNegative with e | v <;> rw [hneg] at h
      · cases h
      · cases v <;> cases h
  rw [hl, FindRequest.withLimit_ok hl] at h
  have hcap : maxResults = .null ∨ ∃ v, maxResults.isNegative = .ok v := by
    split at h
    · exact .inl rfl
    · rcases hneg : maxResults.isNegative with e | v
      · rw [hneg] at h
        cases h
      · exact .inr ⟨v, rfl⟩
  refine ⟨?_, atMost_int_ok hat, reached_ok hcap⟩
  split at h
  · cases h
    rfl
  · rcases hneg : maxResults.isNegative with e | v <;> rw [hneg] at h
    · cases h
    · cases v with
      | true => cases h
      | false =>
        cases h
        rfl


/-- A cursor that stands where a walk stands, for database `db`, page size `S` and cap `M`. -/
structure Tracks (db : Database) (S M : Value) (c : FindCursor) (w : FindWalk) : Prop where
  db : c.db = db
  size : c.pageSize = S
  cap : c.maxResults = M
  query : c.query = w.query
  rows : c.rows = w.queue
  done : c.done = !w.more
  bookmark : c.bookmark = w.last
  yielded : c.yielded = w.yielded

theorem goesOn_of_stop {full repeated : Bool} (h : ((fun x => !x) full || false || repeated) = true) :
    ¬(full && !repeated) = true := by
  cases full <;> cases repeated <;> simp_all

theorem goesOn_of_go {full repeated : Bool} (h : ¬((fun x => !x) full || false || repeated) = true) :
    (full && !repeated) = true := by
  cases full <;> cases repeated <;> simp_all

theorem Tracks.ready {db : Database} {S M : Value} {c : FindCursor} {w : FindWalk}
    (hT : Tracks db S M c w) : (!c.rows.isEmpty || c.done) = (!w.queue.isEmpty || !w.more) := by
  rw [hT.rows, hT.done]

section Rows

variable {db : Database} {S M : Value} {c : FindCursor} {w : FindWalk}

-- the three ways a call leaves the queue, each kept by `Tracks`
theorem Tracks.skip_row (hT : Tracks db S M c w) (rest : List Value) :
    Tracks db S M { c with db, rows := rest } { w with queue := rest } :=
  ⟨rfl, hT.size, hT.cap, hT.query, rfl, hT.done, hT.bookmark, hT.yielded⟩

theorem Tracks.hand_row (hT : Tracks db S M c w) (rest : List Value) :
    Tracks db S M { c with db, rows := rest, yielded := c.yielded + 1 }
      { w with queue := rest, yielded := w.yielded + 1 } :=
  ⟨rfl, hT.size, hT.cap, hT.query, rfl, hT.done, hT.bookmark, by rw [hT.yielded]⟩

theorem Tracks.stop_at_row (hT : Tracks db S M c w) :
    Tracks db S M { c with db, rows := [], done := true } { w with queue := [], more := false } :=
  ⟨rfl, hT.size, hT.cap, hT.query, rfl, rfl, hT.bookmark, hT.yielded⟩

end Rows

theorem nextPage_run {db : Database} {S M : Value} {c : FindCursor} {w : FindWalk}
    (hT : Tracks db S M c w) (hmore : w.more = true) (hS : ∀ n : Nat, ∃ b, atMost S (.int n) = .ok b) {d : Nat}
    {t t' : Session} {r : Except Error FindCursor} (h : (c.nextPage d).run.run t = (r, t')) :
    ∃ a, (db.findEnvelopes w.query (d + 1)).run.run t = (a, t') ∧
      (∀ e, a = .error e → r = .error e) ∧
      (∀ page n, a = .ok (page, n) → ∃ c', r = .ok c' ∧ Tracks db S M c' (w.receive S page n)) := by
  unfold nextPage at h
  rw [hT.db, hT.query] at h
  rcases run_bind_cases h with ⟨e, hfind, rfl⟩ | ⟨⟨page, n⟩, t₁, hfind, h⟩
  · refine ⟨.error e, hfind, ?_, ?_⟩
    · intro e' he
      cases he
      rfl
    · intro page n he
      cases he
  · obtain ⟨b, hb⟩ := hS n
    have hfull : FindWalk.full S n = b := by
      unfold FindWalk.full
      rw [hb]
    dsimp only at h
    -- after the fetch the step only computes: the session stays as the fetch left it
    split at h
    · -- no usable bookmark: the traversal ends
      rename_i hnull
      simp only [if_true] at h
      rw [hT.size, hb] at h
      rcases run_bind_cases h with ⟨e, hl, -⟩ | ⟨short, t₂, hl, h⟩
      · cases hl
      rw [Call.run_lift, Prod.mk.injEq] at hl
      obtain ⟨-, rfl⟩ := hl
      simp only [Bool.or_true, Bool.true_or, if_true] at h
      cases h
      refine ⟨.ok (page, n), hfind, fun _ he => (by cases he), ?_⟩
      intro page' n' he
      cases he
      refine ⟨_, rfl, ?_⟩
      rw [FindWalk.receive_of_null S hnull]
      exact ⟨rfl, rfl, hT.cap, rfl, by rw [hT.rows], rfl, hT.bookmark, hT.yielded⟩
    · rename_i hne
      simp only [Bool.false_eq_true, if_false] at h
      rw [hT.size, hb] at h
      rcases run_bind_cases h with ⟨e, hl, -⟩ | ⟨short, t₂, hl, h⟩
      · cases hl
      rw [Call.run_lift, Prod.mk.injEq] at hl
      obtain ⟨hshort, rfl⟩ := hl
      cases hshort
      have hdone : c.done = false := by rw [hT.done, hmore]; rfl
      split at h
      · -- a short page or a repeated bookmark ends the traversal
        rename_i hstop
        cases h
        refine ⟨.ok (page, n), hfind, fun _ he => (by cases he), ?_⟩
        intro page' n' he
        cases he
        refine ⟨_, rfl, ?_⟩
        rw [FindWalk.receive_of_ne S hne, hfull, ← hT.bookmark, if_neg (goesOn_of_stop hstop)]
        exact ⟨rfl, rfl, hT.cap, rfl, by rw [hT.rows], rfl, rfl, hT.yielded⟩
      · -- a full page with a new bookmark: the next request carries it and no skip
        rename_i hgoes
        rcases run_bind_cases h with ⟨e, hl, -⟩ | ⟨q', t₃, hl, h⟩
        · cases hl
        rw [Call.run_lift, Prod.mk.injEq] at hl
        obtain ⟨hq, rfl⟩ := hl
        cases hq
        cases h
        refine ⟨.ok (page, n), hfind, fun _ he => (by cases he), ?_⟩
        intro page' n' he
        cases he
        refine ⟨_, rfl, ?_⟩
        rw [FindWalk.receive_of_ne S hne, hfull, ← hT.bookmark, if_pos (goesOn_of_go hgoes)]
        exact ⟨rfl, rfl, hT.cap, rfl, by rw [hT.rows], by rw [hdone]; rfl, rfl, hT.yielded⟩

theorem fill_follows {db : Database} {S M : Value} (hS : ∀ n : Nat, ∃ b, atMost S (.int n) = .ok b)
    (depth : Nat) : ∀ (fuel : Nat) (c : FindCursor) (w : FindWalk) (t : Session),
    Tracks db S M c w → t.script.length < fuel →
    ∃ (answers : List FindAnswer) (queries : List FindRequest) (f : Option Error) (w' : FindWalk)
      (c' : FindCursor), queries.length = answers.length ∧
      db.Fetches (depth + 2) t (queries.zip answers) ((next.fill depth fuel c).run t).2 ∧
      (∀ more, FindWalk.refill S w (answers ++ more) = some (f, w', more, queries)) ∧
      Tracks db S M c' w' ∧
      ((next.fill depth fuel c).run t).1 = ((match f with | some e => .error e | none => .ok c'), c')
  | 0, _, _, _, _, hfuel => absurd hfuel (Nat.not_lt_zero _)
  | fuel + 1, c, w, t, hT, hfuel => by
    rw [next.fill.eq_2]
    by_cases hstop : (!c.rows.isEmpty || c.done) = true
    · -- a row to hand out, or no further page: nothing is fetched
      rw [if_pos hstop]
      refine ⟨[], [], none, w, c, rfl, rfl, ?_, hT, rfl⟩
      intro more
      rw [List.nil_append, FindWalk.refill_of_ready S (hT.ready ▸ hstop)]
    · rw [if_neg hstop]
      have hgo : (!w.queue.isEmpty || !w.more) = false := by
        rw [← hT.ready]
        exact Bool.eq_false_iff.mpr hstop
      have hmore : w.more = true := by
        simpa using (Bool.or_eq_false_iff.mp hgo).2
      rcases hnp : (c.nextPage (depth + 1)).run.run t with ⟨r', t₁⟩
      rw [run_bind_run hnp]
      obtain ⟨a, hfind, herr, hok⟩ := nextPage_run hT hmore hS hnp
      rcases a with e | ⟨page, n⟩
      · -- a failed fetch ends the step with its error and the cursor as it was
        rw [herr e rfl]
        refine ⟨[.error e], [w.query], some e, w, c, rfl, ⟨t₁, hfind, rfl⟩, ?_, hT, rfl⟩
        intro more
        rw [List.singleton_append, FindWalk.refill_failed S hgo]
      · -- a page: the step goes on from the cursor that received it, one reply fewer
        obtain ⟨c₁, rfl, hT₁⟩ := hok page n rfl
        obtain ⟨req, reply, -, -, hscript⟩ := Database.findEnvelopes_sends_one hfind
        have hlen : t₁.script.length < fuel := by
          rw [hscript, List.length_cons] at hfuel
          omega
        obtain ⟨answers, queries, f, w', c', hlen', hfetch, hrefill, hT', hres⟩ :=
          fill_follows hS depth fuel c₁ _ t₁ hT₁ hlen
        refine ⟨.ok (page, n) :: answers, w.query :: queries, f, w', c', by simp [hlen'],
          ⟨t₁, hfind, hfetch⟩, ?_, hT', hres⟩
        intro more
        rw [List.cons_append, FindWalk.refill_page S hgo (hrefill more)]


theorem next_follows {db : Database} {S M : Value} (hS : ∀ n : Nat, ∃ b, atMost S (.int n) = .ok b)
    (hM : ∀ y : Nat, ∃ b, reached y M = .ok b) {depth : Nat} {c c' : FindCursor} {w : FindWalk}
    {t t' : Session} {out : Except Error (Option Value)}
    (hT : Tracks db S M c w) (h : (c.next depth).run t = ((out, c'), t')) :
    ∃ (answers : List FindAnswer) (queries : List FindRequest) (w' : FindWalk),
      queries.length = answers.length ∧ db.Fetches (depth + 2) t (queries.zip answers) t' ∧
      (∀ more, FindWalk.call S M db.adapter w (answers ++ more) = some (out, w', more, queries)) ∧
      Tracks db S M c' w' := by
  obtain ⟨b, hb⟩ := hM c.yielded
  rw [← hT.cap] at hb
  have hcap : FindWalk.capped M w.yielded = b := by
    unfold FindWalk.capped
    rw [← hT.yielded, ← hT.cap, hb]
  unfold next at h
  rw [hb] at h
  cases b with
  | true =>
    -- the cap is reached: the traversal ends without a request
    cases h
    refine ⟨[], [], { w with more := false, queue := [] }, rfl, rfl, ?_, ?_⟩
    · intro more
      rw [List.nil_append, FindWalk.call_of_capped S M db.adapter hcap]
    · exact ⟨hT.db, hT.size, hT.cap, hT.query, rfl, rfl, hT.bookmark, hT.yielded⟩
  | false =>
  rw [StateT.run_bind, StateT.run_get, pure_bind] at h
  obtain ⟨answers, queries, f, w₁, c₁, hlen, hfetch, hrefill, hT₁, hres⟩ :=
    fill_follows hS depth (t.script.length + 1) c w t hT (Nat.lt_succ_self _)
  rcases hfill : (next.fill depth (t.script.length + 1) c).run t with ⟨⟨r₁, c₂⟩, t₁⟩
  rw [hfill] at hfetch hres
  rw [run_bind_run hfill] at h
  cases f with
  | some e =>
    -- the fetch failed: its error is the answer, and the cursor is the one before it
    cases hres
    cases h
    exact ⟨answers, queries, w₁, hlen, hfetch,
      fun more => FindWalk.call_of_failed S M db.adapter hcap (hrefill more), hT₁⟩
  | none =>
  cases hres
  dsimp only at h hfetch
  have hcall := fun more => FindWalk.call_of_refilled S M db.adapter hcap (hrefill more)
  rw [hT₁.rows, hT₁.db] at h
  cases hq : w₁.queue with
  | nil =>
    -- no row came: the traversal has ended
    rw [hq] at h
    cases h
    refine ⟨answers, queries, w₁, hlen, hfetch, ?_, hT₁⟩
    intro more
    rw [hcall, FindWalk.hand_nil db.adapter hq]
  | cons env rest =>
  rw [hq] at h
  dsimp only at h
  rcases hdec : db.adapter.fromEnvelope env with e | doc <;> rw [hdec] at h <;> dsimp only at h
  · -- a row that does not decode: a decoding failure ends the traversal, any other skips the row
    have hhand := FindWalk.hand_failed db.adapter hq hdec
    split at h
    · rename_i ce
      by_cases hk : ce.kind = .decode
      · rw [if_pos hk] at h
        cases h
        have hends : (Error.client ce).endsTraversal = true := by simp [Error.endsTraversal, hk]
        refine ⟨answers, queries, { w₁ with queue := [], more := false }, hlen, hfetch, ?_, ?_⟩
        · intro more
          rw [hcall, hhand, if_pos hends]
        · exact hT₁.stop_at_row
      · rw [if_neg hk] at h
        cases h
        have hends : (Error.client ce).endsTraversal = false := by simp [Error.endsTraversal, hk]
        refine ⟨answers, queries, { w₁ with queue := rest }, hlen, hfetch, ?_, ?_⟩
        · intro more
          rw [hcall, hhand, hends, if_neg Bool.false_ne_true]
        · exact hT₁.skip_row rest
    · rename_i hnot
      cases h
      have hends : e.endsTraversal = false := by
        unfold Error.endsTraversal
        split
        · exact absurd rfl (hnot _)
        · rfl
      refine ⟨answers, queries, { w₁ with queue := rest }, hlen, hfetch, ?_, ?_⟩
      · intro more
        rw [hcall, hhand, hends, if_neg Bool.false_ne_true]
      · exact hT₁.skip_row rest
  · -- a decoded row is handed out and counted
    cases h
    refine ⟨answers, queries, { w₁ with queue := rest, yielded := w₁.yielded + 1 }, hlen, hfetch, ?_, ?_⟩
    · intro more
      rw [hcall, FindWalk.hand_decoded db.adapter hq hdec]
    · exact hT₁.hand_row rest

/-- A consumer asking for `n` documents in a row, `depth` calls below the step each time. -/
def nextCalls (depth : Nat) : Nat → FindCursor →
    StateM Session (List (Except Error (Option Value)) × FindCursor)
  | 0, c => pure ([], c)
  | n + 1, c => do
    let (out, c') ← c.next depth
    let (outs, c'') ← nextCalls depth n c'
    pure (out :: outs, c'')

theorem nextCalls_follows {db : Database} {S M : Value} (hS : ∀ n : Nat, ∃ b, atMost S (.int n) = .ok b)
    (hM : ∀ y : Nat, ∃ b, reached y M = .ok b) (depth : Nat) :
    ∀ (n : Nat) (c : FindCursor) (w : FindWalk) (t : Session), Tracks db S M c w →
    ∃ (answers : List FindAnswer) (queries : List FindRequest) (w' : FindWalk),
      queries.length = answers.length ∧
      db.Fetches (depth + 2) t (queries.zip answers) ((nextCalls depth n c).run t).2 ∧
      (∀ more, FindWalk.calls S M db.adapter n w (answers ++ more) =
        some (((nextCalls depth n c).run t).1.1, w', more, queries)) ∧
      Tracks db S M ((nextCalls depth n c).run t).1.2 w'
  | 0, c, w, t, hT => ⟨[], [], w, rfl, rfl, fun _ => rfl, hT⟩
  | n + 1, c, w, t, hT => by
    rcases hn : (c.next depth).run t with ⟨⟨out, c₁⟩, t₁⟩
    obtain ⟨as₁, qs₁, w₁, hlen₁, hfetch₁, hcall₁, hT₁⟩ := next_follows hS hM hT hn
    obtain ⟨as₂, qs₂, w₂, hlen₂, hfetch₂, hcalls₂, hT₂⟩ := nextCalls_follows hS hM depth n c₁ w₁ t₁ hT₁
    have hrun : (nextCalls depth (n + 1) c).run t =
        ((out :: ((nextCalls depth n c₁).run t₁).1.1, ((nextCalls depth n c₁).run t₁).1.2),
          ((nextCalls depth n c₁).run t₁).2) := by
      rw [nextCalls, run_bind_run hn, StateT.run_bind]
      rfl
    rw [hrun]
    refine ⟨as₁ ++ as₂, qs₁ ++ qs₂, w₂, by simp [hlen₁, hlen₂], ?_, ?_, hT₂⟩
    · rw [List.zip_append hlen₁]
      exact Database.fetches_append hfetch₁ hfetch₂
    · intro more
      rw [FindWalk.calls, List.append_assoc, hcall₁]
      simp only [Option.bind_eq_bind, Option.bind_some, hcalls₂]
      rfl


/-- `n` calls of `next` run the reference walk on the server's answers to its requests. -/
theorem traversal_follows_reference {db : Database} {q : FindRequest} {pageSize maxResults : Value}
    {c : FindCursor} (hc : create db q pageSize maxResults = .ok c) (depth n : Nat) (s : Session) :
    let S := if pageSize.truthy then pageSize else if q.limit.truthy then q.limit else .int 1000
    let run := (nextCalls depth n c).run s
    ∃ (answers : List FindAnswer) (queries : List FindRequest) (w : FindWalk),
      FindWalk.calls S maxResults db.adapter n (FindWalk.start q S) answers =
        some (run.1.1, w, [], queries) ∧
      queries.length = answers.length ∧ db.Fetches (depth + 2) s (queries.zip answers) run.2 ∧
      Tracks db S maxResults run.1.2 w := by
  intro S run
  obtain ⟨hc', hS, hM⟩ := create_ok hc
  have hT : Tracks db S maxResults c (FindWalk.start q S) := by
    rw [hc']
    exact ⟨rfl, rfl, rfl, rfl, rfl, rfl, rfl, rfl⟩
  obtain ⟨answers, queries, w, hlen, hfetch, hcalls, hT'⟩ := nextCalls_follows hS hM depth n c _ s hT
  refine ⟨answers, queries, w, ?_, hlen, hfetch, hT'⟩
  simpa using hcalls []

theorem traversal_follows_reference_all_documents :
    let db : Database := ⟨"users", .envelope⟩
    let c : FindCursor := { db, query := { FindRequest.all with limit := .int 2 }, pageSize := .int 2,
                            maxResults := .null, bookmark := .null }
    let s : Session := { base := { scheme := "http", host := "couch.test", path := "/" },
                         authorization := none, stem := .str "", script := [] }
    create db FindRequest.all (.int 2) .null = .ok c ∧
      let run := (nextCalls 2 3 c).run s
      ∃ (answers : List FindAnswer) (queries : List FindRequest) (w : FindWalk),
        FindWalk.calls (.int 2) .null db.adapter 3 (FindWalk.start FindRequest.all (.int 2)) answers =
          some (run.1.1, w, [], queries) ∧
        queries.length = answers.length ∧ db.Fetches (2 + 2) s (queries.zip answers) run.2 ∧
        Tracks db (.int 2) .null run.1.2 w := by
  intro db c s
  have hc : create db FindRequest.all (.int 2) .null = .ok c := rfl
  exact ⟨hc, traversal_follows_reference hc 2 3 s⟩

end FindCursor
end DocClient
