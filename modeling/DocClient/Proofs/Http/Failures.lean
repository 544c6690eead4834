import DocClient.Database.Find
import DocClient.Proofs.Changes.Rounds
/-!
# Replies with a failure status

The status chooses the failure whenever the body reads; a body that is not JSON ends the
operation with a decoding failure instead (`failed_reply_reported_by_status`).
-/
namespace DocClient

/-- The error code of a failure body: the `error` of an object; other bodies have none. -/
def bodyCode : Value → Value
  | .dict es => Value.getD es "error"
  | _ => .null

/-- The kind of failure a status chooses, given the body's error code. -/
def statusKind (status : Int) (code : Value) : ClientErrorKind :=
  if status = 404 then .notFound
  else if status = 409 ∨ code.eq (.str "conflict") = true then .conflict
  else .server

theorem int_eq_int (a b : Int) : (Value.int a).eq (.int b) = (a == b) := by
  simp [Value.eq, Value.scalarEq?, Value.asInt?]

theorem errorForStatus_int (status : Int) (body operation docId : Value) :
    let e := errorForStatus (.int status) body operation docId
    e.kind = statusKind status (bodyCode body) ∧ e.code = bodyCode body ∧
      e.status = .int status ∧ e.operation = operation ∧ e.docId = docId := by
  cases body <;> simp [errorForStatus, statusKind, bodyCode, int_eq_int, Bool.or_eq_true]
  -- the tests simp leaves are `statusKind`'s, decided by another instance of the same decision
  all_goals rfl

/-- The failure a failure status ends an operation with, the body decoded first. -/
def statusFailure (depth : Nat) (operation docId : Value) (status : Int) (bs : List UInt8) :
    Error :=
  match decodeBody depth operation status bs with
  | .ok v => .client (errorForStatus (.int status) v operation docId)
  | .error e => e

/-- The failure of an update handler's failure reply. -/
def textFailure (docId : Value) (status : Int) (bs : List UInt8) : Error :=
  match decodeBody 4 (.str "execute_update") status bs with
  | .ok v => .client (errorForStatus (.int status) v (.str "execute_update") docId)
  | .error (.client _) => .client (errorForStatus (.int status) .null (.str "execute_update") docId)
  | .error e => e

theorem statusFailure_of_reads {depth : Nat} {operation docId v : Value} {status : Int}
    {bs : List UInt8} (h : decodeBody depth operation status bs = .ok v) :
    statusFailure depth operation docId status bs =
      .client (errorForStatus (.int status) v operation docId) := by
  simp [statusFailure, h]

theorem decodeBody_error {depth : Nat} {operation : Value} {status : Int} {bs : List UInt8}
    {e : Error} (h : decodeBody depth operation status bs = .error e) :
    (∃ m, e = .client { kind := .decode, message := .str m, operation, status := .int status }) ∨
      (∃ m, e = .value m) ∨ ∃ m, e = .recursion m := by
  unfold decodeBody at h
  split at h
  · cases h
  · split at h
    · cases h
    · cases h
      exact .inr (.inl ⟨_, rfl⟩)
    · cases h
      exact .inr (.inr ⟨_, rfl⟩)
    · cases h
      exact .inl ⟨_, rfl⟩

section Paths

variable {method path : String} {params : List (Value × Value)} {body : RequestBody}
variable {operation docId : Value} {s s₁ : Session}

open Session

theorem exchange_of_reply {r : Reply} {bs : List UInt8} {s₂ : Session}
    (hsend : (send method path params body).run s = (.ok (.reply r), s₁))
    (hread : (readWhole r.pieces).run.run s₁ = (.ok (.ok bs), s₂)) :
    (exchange operation docId method path params body).run.run s = (.ok (r.status, bs), s₂) := by
  have hlift : (ExceptT.lift (send method path params body) : Call (Except Error Scripted)).run.run s =
      (.ok (.ok (.reply r)), s₁) := by
    rw [run_liftState, hsend]
  unfold exchange
  rw [ExceptT.run_bind, run_bind_run hlift]
  dsimp only
  rw [ExceptT.run_bind, run_bind_run hread]
  rfl

theorem request_of_exchange (depth : Nat) {status : Int} {bs : List UInt8}
    (hex : (exchange operation docId method path params body).run.run s = (.ok (status, bs), s₁)) :
    (request depth operation docId method path params body).run.run s =
      ((decodeBody (depth + 2) operation status bs).map ((status, ·)), s₁) := by
  have hpure : (exchange operation docId method path params body).run.run s =
      pure (.ok (status, bs), s₁) := hex
  unfold request
  rw [ExceptT.run_bind, StateT.run_bind, hpure, pure_bind]
  dsimp only
  cases decodeBody (depth + 2) operation status bs <;> rfl

theorem requestOk_failed {depth : Nat} {status : Int} {bs : List UInt8}
    (hex : (exchange operation docId method path params body).run.run s = (.ok (status, bs), s₁))
    (hs : 400 ≤ status) :
    (requestOk depth operation docId method path params body).run.run s =
      (.error (statusFailure (depth + 3) operation docId status bs), s₁) := by
  have hreq := request_of_exchange (depth + 1) hex
  unfold requestOk statusFailure
  cases hd : decodeBody (depth + 1 + 2) operation status bs with
  | error e =>
    rw [hd] at hreq
    rw [ExceptT.run_bind, StateT.run_bind, hreq]
    rfl
  | ok v =>
    rw [hd] at hreq
    change (request (depth + 1) operation docId method path params body).run.run s =
      pure (.ok (status, v), s₁) at hreq
    rw [ExceptT.run_bind, StateT.run_bind, hreq, pure_bind]
    dsimp only
    rw [if_pos hs]
    rfl

theorem requestOk_reported {depth : Nat} {status : Int} {bs : List UInt8} {v : Value}
    (hex : (exchange operation docId method path params body).run.run s = (.ok (status, bs), s₁))
    (hs : 400 ≤ status) (hv : decodeBody (depth + 3) operation status bs = .ok v) :
    (requestOk depth operation docId method path params body).run.run s =
      (.error (.client (errorForStatus (.int status) v operation docId)), s₁) := by
  rw [requestOk_failed hex hs, statusFailure_of_reads hv]

theorem findEnvelopes_failed {db : Database} {q : FindRequest} {depth : Nat} {p : String}
    {fields : List (Value × Value)} {b : RequestBody} {status : Int} {bs : List UInt8}
    (hp : db.path [.str "_find"] = .ok p) (hq : q.toBody = .ok fields)
    (hb : jsonBody (depth + 1) (.dict fields) = .ok b)
    (hex : (exchange (.str "find") .null "POST" p [] b).run.run s = (.ok (status, bs), s₁))
    (hs : 400 ≤ status) :
    (db.findEnvelopes q depth).run.run s =
      (.error (statusFailure (depth + 3) (.str "find") .null status bs), s₁) := by
  have hreq := request_of_exchange (depth + 1) hex
  unfold Database.findEnvelopes statusFailure
  rw [hp, hq]
  simp only [Call.lift, pure_bind]
  rw [hb]
  simp only [pure_bind]
  cases hd : decodeBody (depth + 1 + 2) (.str "find") status bs with
  | error e =>
    rw [hd] at hreq
    rw [ExceptT.run_bind, StateT.run_bind, hreq]
    rfl
  | ok v =>
    rw [hd] at hreq
    change (request (depth + 1) (.str "find") .null "POST" p [] b).run.run s =
      pure (.ok (status, v), s₁) at hreq
    rw [ExceptT.run_bind, StateT.run_bind, hreq, pure_bind]
    dsimp only
    rw [if_pos hs]
    rfl

theorem openFeed_failed {name : String} {f : ChangeFeed} {depth : Nat} {r : Reply}
    {bs : List UInt8} {s₂ : Session}
    (hsend : (send "GET" (Percent.joinSegments [f.spec.db, "_changes"]) f.params .none).run s =
      (.ok (.reply r), s₁))
    (hs : 400 ≤ r.status) (hread : (readWhole r.pieces).run.run s₁ = (.ok (.ok bs), s₂)) :
    (openFeed name f depth).run s =
      (.error (statusFailure (depth + 6) (.str "changes") .null r.status bs), s₂) := by
  have hpure : (send "GET" (Percent.joinSegments [f.spec.db, "_changes"]) f.params .none).run s =
      pure (.ok (.reply r), s₁) := hsend
  have hread' : (readWhole r.pieces).run.run s₁ = pure (.ok (.ok bs), s₂) := hread
  rw [openFeed, StateT.run_bind, hpure, pure_bind]
  simp only [hs, if_true]
  rw [StateT.run_bind, hread', pure_bind]
  dsimp only
  unfold statusFailure
  cases decodeBody (depth + 6) (.str "changes") r.status bs <;> rfl

theorem executeUpdate_failed {db : Database} {design update docId content : Value}
    {text p : String} {status : Int} {bs : List UInt8}
    (hp : db.path [.str "_design", design, .str "_update", update, docId] = .ok p)
    (hc : (content = .null ∧ text = "") ∨
      (content ≠ .null ∧ Json.writeAscii Json.Style.spaced (Json.stackRoom - 1) content = .ok text))
    (hex : (exchange (.str "execute_update") docId "PUT" p [] (.text text)).run.run s =
      (.ok (status, bs), s₁))
    (hs : 400 ≤ status) :
    (db.executeUpdate design update docId content).run.run s =
      (.error (textFailure docId status bs), s₁) := by
  have hpure : (exchange (.str "execute_update") docId "PUT" p [] (.text text)).run.run s =
      pure (.ok (status, bs), s₁) := hex
  unfold Database.executeUpdate textFailure
  rw [hp]
  simp only [Call.lift, pure_bind]
  -- the content sent is the empty text for no body, else the body written as JSON
  rcases hc with ⟨rfl, rfl⟩ | ⟨hne, hw⟩
  case' inl => dsimp only
  case' inr =>
    split
    · exact absurd rfl hne
    rw [hw]
    dsimp only
  all_goals
    rw [ExceptT.run_bind, StateT.run_bind, hpure, pure_bind]
    dsimp only
    rw [if_pos hs]
    cases decodeBody 4 (.str "execute_update") status bs with
    | ok v => rfl
    | error e => cases e <;> rfl

end Paths

theorem Database.get_failed {db : Database} {docId : Value} {p : String} {e : Error}
    {s s₁ : Session} (hp : db.path [docId] = .ok p)
    (h : (requestOk 2 (.str "get") docId "GET" p).run.run s = (.error e, s₁)) :
    (db.get docId).run.run s = (.error e, s₁) := by
  unfold Database.get
  rw [hp]
  simp only [Call.lift, pure_bind]
  rw [ExceptT.run_bind, StateT.run_bind, h]
  rfl

/-- Every path that maps a failure status reports the reply by its status. -/
def ReportedByStatus (status : Int) (bs : List UInt8) : Prop :=
    (∀ (depth : Nat) (operation docId : Value) (method path : String)
      (params : List (Value × Value)) (body : RequestBody) (s s₁ : Session) (v : Value),
      (exchange operation docId method path params body).run.run s = (.ok (status, bs), s₁) →
      decodeBody (depth + 3) operation status bs = .ok v →
      (requestOk depth operation docId method path params body).run.run s =
        (.error (.client (errorForStatus (.int status) v operation docId)), s₁)) ∧
    (∀ (db : Database) (q : FindRequest) (depth : Nat) (p : String)
      (fields : List (Value × Value)) (b : RequestBody) (s s₁ : Session) (v : Value),
      db.path [.str "_find"] = .ok p → q.toBody = .ok fields → jsonBody (depth + 1) (.dict fields) = .ok b →
      (exchange (.str "find") .null "POST" p [] b).run.run s = (.ok (status, bs), s₁) →
      decodeBody (depth + 3) (.str "find") status bs = .ok v →
      (db.findEnvelopes q depth).run.run s =
        (.error (.client (errorForStatus (.int status) v (.str "find"))), s₁)) ∧
    (∀ (name : String) (f : ChangeFeed) (depth : Nat) (r : Reply) (s s₁ s₂ : Session) (v : Value),
      (Session.send "GET" (Percent.joinSegments [f.spec.db, "_changes"]) f.params .none).run s =
        (.ok (.reply r), s₁) →
      r.status = status → (readWhole r.pieces).run.run s₁ = (.ok (.ok bs), s₂) →
      decodeBody (depth + 6) (.str "changes") status bs = .ok v →
      (Session.openFeed name f depth).run s =
        (.error (.client (errorForStatus (.int status) v (.str "changes"))), s₂)) ∧
    (∀ (db : Database) (design update docId content : Value) (text p : String) (s s₁ : Session)
      (v : Value),
      db.path [.str "_design", design, .str "_update", update, docId] = .ok p →
      ((content = .null ∧ text = "") ∨
        (content ≠ .null ∧ Json.writeAscii Json.Style.spaced (Json.stackRoom - 1) content = .ok text)) →
      (exchange (.str "execute_update") docId "PUT" p [] (.text text)).run.run s =
        (.ok (status, bs), s₁) →
      (decodeBody 4 (.str "execute_update") status bs = .ok v ∨
        ((∃ c, decodeBody 4 (.str "execute_update") status bs = .error (.client c)) ∧ v = .null)) →
      (db.executeUpdate design update docId content).run.run s =
        (.error (.client (errorForStatus (.int status) v (.str "execute_update") docId)), s₁)) ∧
    (∀ (body operation docId : Value),
      let e := errorForStatus (.int status) body operation docId
      e.kind = statusKind status (bodyCode body) ∧ e.code = bodyCode body ∧
        e.status = .int status ∧ e.operation = operation ∧ e.docId = docId)

/-- A reply with a failure status is reported by its status whenever its body reads. -/
theorem failed_reply_reported_by_status (status : Int) (bs : List UInt8) (hs : 400 ≤ status) :
    ReportedByStatus status bs := by
  refine ⟨?_, ?_, ?_, ?_, errorForStatus_int status⟩
  · intro depth operation docId method path params body s s₁ v hex hv
    exact requestOk_reported hex hs hv
  · intro db q depth p fields b s s₁ v hp hq hb hex hv
    rw [findEnvelopes_failed hp hq hb hex hs, statusFailure_of_reads hv]
  · intro name f depth r s s₁ s₂ v hsend hr hread hv
    subst hr
    rw [openFeed_failed hsend hs hread, statusFailure_of_reads hv]
  · intro db design update docId content text p s s₁ v hp hc hex hv
    rw [executeUpdate_failed hp hc hex hs]
    -- a body that reads is given to the status; one that is not JSON counts as none
    rcases hv with hv | ⟨⟨c, hc⟩, rfl⟩
    · simp [textFailure, hv]
    · simp [textFailure, hc]

theorem failed_reply_reported_by_status_not_found : 400 ≤ (404 : Int) ∧ ReportedByStatus 404 [] :=
  ⟨by decide, failed_reply_reported_by_status 404 [] (by decide)⟩

/-- An HTML error page fails a document read with a decoding failure. -/
theorem error_page_fails_to_decode :
    let db : Database := ⟨"users", .envelope⟩
    let page : List UInt8 := [0x3C, 0x68, 0x74, 0x6D, 0x6C, 0x3E]
    let s : Session := { base := { scheme := "http", host := "couch.test", path := "/" },
                         authorization := none, stem := .str "",
                         script := [.reply ⟨500, [.bytes page]⟩] }
    ∃ e s', (db.get (.str "a")).run.run s = (.error e, s') ∧ e.className = "DecodeError" ∧
      (errorForStatus (.int 500) .null (.str "get") (.str "a")).kind = .server := by
  intro db page s
  have hp : db.path [.str "a"] = .ok "users/a" := by
    change Database.path ⟨"users", .envelope⟩ [.str "a"] = .ok "users/a"
    rfl
  -- the request's query and URL are evaluated apart from the session and its bytes
  have hbase : s.base = { scheme := "http", host := "couch.test", path := "/" } := rfl
  have hq : requestQuery (s.base.join "users/a").query [] = .ok (none, []) := by
    rw [hbase]
    with_unfolding_all rfl
  have ht : Url.namesType ({ s.base.join "users/a" with query := none } : Url).text = true := by
    rw [hbase]
    decide +kernel
  obtain ⟨req, hsend⟩ : ∃ req, (Session.send "GET" "users/a" [] .none).run s =
      (.ok (.reply ⟨500, [.bytes page]⟩), { s with sent := s.sent ++ [req], script := [] }) :=
    Session.send_of_reply hq ht rfl
  refine ⟨_, _, Database.get_failed hp (requestOk_failed (exchange_of_reply hsend rfl) (by decide)),
    ?_, ?_⟩
  · decide +kernel
  · decide +kernel

end DocClient
