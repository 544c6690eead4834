import DocClient.Proofs.Database.FindAll
/-!
# A find traversal contains its failures

A failed fetch leaves the cursor as before the fetch, and a decoding failure ends the
traversal (`next_contains_failures`); pages taken in before a failed fetch are kept
(`failed_fetch_keeps_design_page`).
-/
namespace DocClient

namespace FindCursor

/-- What fetching a page leaves alone. -/
structure Frame (c c' : FindCursor) : Prop where
  db : c'.db = c.db
  size : c'.pageSize = c.pageSize
  cap : c'.maxResults = c.maxResults
  yielded : c'.yielded = c.yielded

theorem nextPage_of_fetch_error {c : FindCursor} {d : Nat} {t t₁ : Session} {e : Error}
    (h : (c.db.findEnvelopes c.query (d + 1)).run.run t = (.error e, t₁)) :
    (c.nextPage d).run.run t = (.error e, t₁) := by
  unfold nextPage
  rw [ExceptT.run_bind, StateT.run_bind, h]
  rfl

theorem nextPage_ok {c c₁ : FindCursor} {d : Nat} {t t₁ : Session}
    (h : (c.nextPage d).run.run t = (.ok c₁, t₁)) :
    Frame c c₁ ∧ t.script.length = t₁.script.length + 1 := by
  unfold nextPage at h
  obtain ⟨⟨page, n⟩, t₂, hfind, h⟩ := run_bind_ok h
  obtain ⟨req, r, -, -, hscript⟩ := Database.findEnvelopes_sends_one hfind
  have hlen : t₂.script.length + 1 = t.script.length := by rw [hscript, List.length_cons]
  dsimp only at h
  -- after the fetch the step only computes: the session is the one the fetch left
  split at h
  all_goals
    simp only [if_true, Bool.false_eq_true, if_false] at h
    obtain ⟨short, t₃, hl, h⟩ := run_bind_ok h
    obtain ⟨-, rfl⟩ := lift_run_ok hl
    split at h
    · cases h
      exact ⟨⟨rfl, rfl, rfl, rfl⟩, hlen.symm⟩
    · obtain ⟨q, t₄, hq, h⟩ := run_bind_ok h
      obtain ⟨-, rfl⟩ := lift_run_ok hq
      cases h
      exact ⟨⟨rfl, rfl, rfl, rfl⟩, hlen.symm⟩

section Fill

variable {c c₁ : FindCursor} {d : Nat} {t t₁ : Session}

theorem fill_of_ready (h : (!c.rows.isEmpty || c.done) = true) (n : Nat) :
    (next.fill d (n + 1) c).run t = ((.ok c, c), t) := by
  rw [next.fill.eq_2, if_pos h]
  rfl

theorem fill_of_fetch_error {e : Error} (hrows : c.rows = []) (hdone : c.done = false)
    (h : (c.nextPage (d + 1)).run.run t = (.error e, t₁)) (n : Nat) :
    (next.fill d (n + 1) c).run t = ((.error e, c), t₁) := by
  have hgo : (!c.rows.isEmpty || c.done) = false := by simp [hrows, hdone]
  rw [next.fill.eq_2, hgo, if_neg Bool.false_ne_true, run_bind_run h]
  rfl

theorem fill_of_page (hrows : c.rows = []) (hdone : c.done = false)
    (h : (c.nextPage (d + 1)).run.run t = (.ok c₁, t₁)) (n : Nat) :
    (next.fill d (n + 1) c).run t = (next.fill d n c₁).run t₁ := by
  have hgo : (!c.rows.isEmpty || c.done) = false := by simp [hrows, hdone]
  rw [next.fill.eq_2, hgo, if_neg Bool.false_ne_true, run_bind_run h]

end Fill

section Next

variable {c c₁ : FindCursor} {d : Nat} {t t₁ : Session}

theorem next_of_fetch_error {e : Error} (hrows : c.rows = []) (hdone : c.done = false)
    (hcap : reached c.yielded c.maxResults = .ok false)
    (h : (c.nextPage (d + 1)).run.run t = (.error e, t₁)) :
    (c.next d).run t = ((.error e, c), t₁) := by
  unfold next
  rw [hcap, StateT.run_bind, StateT.run_get, pure_bind,
    run_bind_run (fill_of_fetch_error hrows hdone h _)]
  rfl

theorem next_of_page (hrows : c.rows = []) (hdone : c.done = false)
    (hcap : reached c.yielded c.maxResults = .ok false)
    (h : (c.nextPage (d + 1)).run.run t = (.ok c₁, t₁)) :
    (c.next d).run t = (c₁.next d).run t₁ := by
  obtain ⟨hframe, hlen⟩ := nextPage_ok h
  have hcap₁ : reached c₁.yielded c₁.maxResults = .ok false := by
    rw [hframe.yielded, hframe.cap]
    exact hcap
  unfold next
  simp only [hcap, hcap₁, StateT.run_bind, StateT.run_get, pure_bind]
  rw [hlen, fill_of_page hrows hdone h]

theorem next_of_decode_failure {env : Value} {rest : List Value} {e : Error}
    (hrows : c.rows = env :: rest) (hcap : reached c.yielded c.maxResults = .ok false)
    (hdec : c.db.adapter.fromEnvelope env = .error e) (hend : e.endsTraversal = true) :
    (c.next d).run t = ((.error e, { c with rows := [], done := true }), t) := by
  have hready : (!c.rows.isEmpty || c.done) = true := by simp [hrows]
  unfold next
  rw [hcap, StateT.run_bind, StateT.run_get, pure_bind, run_bind_run (fill_of_ready hready _)]
  simp only [hrows, hdec]
  cases e with
  | client ce =>
    have hk : ce.kind = .decode := by simpa [Error.endsTraversal] using hend
    simp only [hk, if_true]
    rfl
  | _ => simp [Error.endsTraversal] at hend

theorem next_of_ended {b : Bool} (hrows : c.rows = []) (hdone : c.done = true)
    (hcap : reached c.yielded c.maxResults = .ok b) :
    (c.next d).run t = ((.ok none, c), t) := by
  have hready : (!c.rows.isEmpty || c.done) = true := by simp [hdone]
  unfold next
  rw [hcap]
  cases b with
  | true =>
    have hsame : { c with done := true, rows := [] } = c := by
      cases c
      simp only at hrows hdone
      rw [hrows, hdone]
    rw [hsame]
    rfl
  | false =>
    rw [StateT.run_bind, StateT.run_get, pure_bind, run_bind_run (fill_of_ready hready _)]
    simp only [hrows]
    rfl

theorem nextCalls_of_ended {b : Bool} (hrows : c.rows = []) (hdone : c.done = true)
    (hcap : reached c.yielded c.maxResults = .ok b) :
    ∀ (n : Nat) (t : Session), (nextCalls d n c).run t = ((List.replicate n (.ok none), c), t)
  | 0, t => rfl
  | n + 1, t => by
    rw [nextCalls, run_bind_run (next_of_ended hrows hdone hcap)]
    dsimp only
    rw [run_bind_run (nextCalls_of_ended hrows hdone hcap n t)]
    rfl

end Next

/-- A find traversal contains its fetch failures and ends at its first decoding failure. -/
theorem next_contains_failures (d : Nat) :
    (∀ (c : FindCursor) (t t₁ : Session) (e : Error), c.rows = [] → c.done = false →
      reached c.yielded c.maxResults = .ok false →
      (c.db.findEnvelopes c.query (d + 2)).run.run t = (.error e, t₁) →
      (c.next d).run t = ((.error e, c), t₁)) ∧
    (∀ (c c₁ : FindCursor) (t t₁ : Session), c.rows = [] → c.done = false →
      reached c.yielded c.maxResults = .ok false →
      (c.nextPage (d + 1)).run.run t = (.ok c₁, t₁) →
      c₁.yielded = c.yielded ∧ (c.next d).run t = (c₁.next d).run t₁) ∧
    (∀ (c : FindCursor) (t : Session) (env : Value) (rest : List Value) (e : Error),
      c.rows = env :: rest → reached c.yielded c.maxResults = .ok false →
      c.db.adapter.fromEnvelope env = .error e → e.endsTraversal = true →
      (c.next d).run t = ((.error e, { c with rows := [], done := true }), t) ∧
      ∀ (n : Nat) (t₂ : Session), (nextCalls d n { c with rows := [], done := true }).run t₂ =
        ((List.replicate n (.ok none), { c with rows := [], done := true }), t₂)) := by
  refine ⟨fun c t t₁ e hrows hdone hcap hfetch => ?_, fun c c₁ t t₁ hrows hdone hcap hpage => ?_,
    fun c t env rest e hrows hcap hdec hend => ?_⟩
  · exact next_of_fetch_error hrows hdone hcap (nextPage_of_fetch_error hfetch)
  · exact ⟨(nextPage_ok hpage).1.yielded, next_of_page hrows hdone hcap hpage⟩
  · exact ⟨next_of_decode_failure hrows hcap hdec hend, nextCalls_of_ended rfl rfl hcap⟩

/-- A raw cursor unreachable, handed a page, and holding a row that is no object. -/
theorem next_contains_failures_three_ways :
    let c : FindCursor := { db := ⟨"users", .envelope⟩, query := { FindRequest.all with limit := .int 1 },
                            pageSize := .int 1, maxResults := .null, bookmark := .null }
    let s : Session := { base := { scheme := "http", host := "couch.test", path := "/" },
                         authorization := none, stem := .str "", script := [] }
    let page : List UInt8 :=
      (String.toUTF8 "\x7b\"bookmark\":\"b1\",\"docs\":[\x7b\"_id\":\"a\"\x7d]\x7d").toList
    let served : Session := { s with script := [.reply ⟨200, [.bytes page]⟩] }
    let stray : FindCursor := { c with rows := [.int 1] }
    let e : Error := Error.decodeDoc "Expected a JSON object, got int"
    (c.rows = [] ∧ c.done = false ∧ reached c.yielded c.maxResults = .ok false ∧
      ∃ e t₁, (c.db.findEnvelopes c.query 3).run.run s = (.error e, t₁) ∧
        (c.next 1).run s = ((.error e, c), t₁)) ∧
    (∃ c₁ t₁, (c.nextPage 2).run.run served = (.ok c₁, t₁) ∧
      c₁.yielded = c.yielded ∧ (c.next 1).run served = (c₁.next 1).run t₁) ∧
    (stray.db.adapter.fromEnvelope (.int 1) = .error e ∧ e.endsTraversal = true ∧
      (stray.next 1).run s = ((.error e, { stray with rows := [], done := true }), s) ∧
      ∀ (n : Nat) (t₂ : Session), (nextCalls 1 n { stray with rows := [], done := true }).run t₂ =
        ((List.replicate n (.ok none), { stray with rows := [], done := true }), t₂)) := by
  intro c s page served stray e
  have hcap : reached c.yielded c.maxResults = .ok false := rfl
  refine ⟨?unreachable, ?page, ?stray⟩
  case unreachable =>
    have hfails : ((c.db.findEnvelopes c.query 3).run.run s).1.toBool = false := by decide +kernel
    rcases hrun : (c.db.findEnvelopes c.query 3).run.run s with ⟨r, t₁⟩
    rw [hrun] at hfails
    cases r with
    | ok a => cases hfails
    | error e => exact ⟨rfl, rfl, hcap, e, t₁, rfl, (next_contains_failures 1).1 _ _ _ _ rfl rfl hcap hrun⟩
  case page =>
    have hok : ((c.nextPage 2).run.run served).1.toBool = true := by decide +kernel
    rcases hrun : (c.nextPage 2).run.run served with ⟨r, t₁⟩
    rw [hrun] at hok
    cases r with
    | error e => cases hok
    | ok c₁ => exact ⟨c₁, t₁, rfl, (next_contains_failures 1).2.1 _ _ _ _ rfl rfl hcap hrun⟩
  case stray =>
    have hdec : stray.db.adapter.fromEnvelope (.int 1) = .error e := rfl
    have hend : e.endsTraversal = true := rfl
    exact ⟨hdec, hend, (next_contains_failures 1).2.2 stray s (.int 1) [] e rfl hcap hdec hend⟩

/-- A failed fetch after a design-document page keeps that page, not the cursor before the call. -/
theorem failed_fetch_keeps_design_page :
    let c : FindCursor := { db := ⟨"users", .envelope⟩, query := { FindRequest.all with limit := .int 1 },
                            pageSize := .int 1, maxResults := .null, bookmark := .null }
    let page : List UInt8 :=
      (String.toUTF8 "\x7b\"bookmark\":\"b1\",\"docs\":[\x7b\"_id\":\"_design/a\"\x7d]\x7d").toList
    let s : Session := { base := { scheme := "http", host := "couch.test", path := "/" },
                         authorization := none, stem := .str "", script := [.reply ⟨200, [.bytes page]⟩] }
    create ⟨"users", .envelope⟩ FindRequest.all (.int 1) .null = .ok c ∧ c.pages = 0 ∧
      ((c.next 1).run s).1.1.toBool = false ∧ ((c.next 1).run s).2.sent.length = 2 ∧
      ((c.next 1).run s).1.2.pages = 1 ∧ ((c.next 1).run s).1.2.query.bookmark.eq (.str "b1") = true := by
  intro c page s
  refine ⟨rfl, rfl, ?_⟩
  decide +kernel

end FindCursor
end DocClient
