import DocClient.Proofs.Http.Failures
import DocClient.Proofs.Database.FindFailures
import DocClient.Proofs.Database.FailedSubmission
import DocClient.Proofs.Database.Upsert
/-!
# Failure statuses, operation by operation

Each operation reads its reply through `requestOk`, so a failure status whose body reads ends
it with the failure the status chooses, under its name and document id.
-/
namespace DocClient

section Runs

variable {ε σ α β : Type}

theorem run_bind_of_error {x : ExceptT ε (StateM σ) α} {f : α → ExceptT ε (StateM σ) β} {s t : σ}
    {e : ε} (h : x.run.run s = (.error e, t)) : (x >>= f).run.run s = (.error e, t) := by
  rw [ExceptT.run_bind, StateT.run_bind, h]
  rfl

theorem run_lift_bind {x : Except Error α} {f : α → Call β} {a : α} (h : x = .ok a) (s : Session) :
    (Call.lift x >>= f).run.run s = (f a).run.run s :=
  run_bind_of_ok (by rw [Call.run_lift, h])

theorem run_tryCatch_of_error {x : Call α} {h : Error → Call α} {s t : Session} {e : Error}
    (hx : x.run.run s = (.error e, t)) : (tryCatch x h).run.run s = (h e).run.run t := by
  simp only [tryCatch, tryCatchThe, MonadExceptOf.tryCatch, ExceptT.tryCatch, ExceptT.run_mk,
    StateT.run_bind]
  rw [show StateT.run x s = (Except.error e, t) from hx]
  rfl

end Runs

variable {operation docId v : Value} {method path : String} {params : List (Value × Value)}
  {body : RequestBody} {s s₁ : Session} {status : Int} {bs : List UInt8}

theorem health_reported (hex : (exchange (.str "health") .null "GET" "_up" [] .none).run.run s =
      (.ok (status, bs), s₁)) (hs : 400 ≤ status) (hv : decodeBody 5 (.str "health") status bs = .ok v) :
    health.run.run s = (.error (.client (errorForStatus (.int status) v (.str "health") .null)), s₁) :=
  run_bind_of_error (requestOk_reported hex hs hv)

namespace Database

variable {db : Database} {p : String}

theorem get_reported (hp : db.path [docId] = .ok p)
    (hex : (exchange (.str "get") docId "GET" p [] .none).run.run s = (.ok (status, bs), s₁))
    (hs : 400 ≤ status) (hv : decodeBody 5 (.str "get") status bs = .ok v) :
    (db.get docId).run.run s = (.error (.client (errorForStatus (.int status) v (.str "get") docId)), s₁) :=
  get_failed hp (requestOk_reported hex hs hv)

theorem save_reported {doc : Value} {depth : Nat} {env : List (Value × Value)} {b : RequestBody}
    (henv : db.adapter.toEnvelope doc = .ok env) (hid : db.adapter.getId doc = .ok docId)
    (hp : db.path (if docId.truthy then [docId] else []) = .ok p)
    (hb : jsonBody (depth + 2) (.dict env) = .ok b)
    (hex : (exchange (.str "save") docId (if docId.truthy then "PUT" else "POST") p [] b).run.run s =
      (.ok (status, bs), s₁))
    (hs : 400 ≤ status) (hv : decodeBody (depth + 4) (.str "save") status bs = .ok v) :
    (db.save doc depth).run.run s =
      (.error (.client (errorForStatus (.int status) v (.str "save") docId)), s₁) := by
  unfold save
  rw [run_lift_bind henv, run_lift_bind hid]
  -- the method and the path are chosen apart from the session
  cases ht : docId.truthy
  all_goals
    simp only [ht, if_true, Bool.false_eq_true, if_false] at hp hex ⊢
    rw [run_lift_bind hp]
    simp only [pure_bind]
    rw [run_lift_bind hb, run_bind_of_error (requestOk_reported hex hs hv)]

theorem create_reported {doc : Value} {env : List (Value × Value)} {b : RequestBody}
    (henv : db.adapter.toEnvelope doc = .ok env) (hid : db.adapter.getId doc = .ok docId)
    (hp : db.path [] = .ok p) (hb : jsonBody 3 (.dict env) = .ok b)
    (hex : (exchange (.str "create") docId "POST" p [] b).run.run s = (.ok (status, bs), s₁))
    (hs : 400 ≤ status) (hv : decodeBody 5 (.str "create") status bs = .ok v) :
    (db.create doc).run.run s =
      (.error (.client (errorForStatus (.int status) v (.str "create") docId)), s₁) := by
  unfold create
  rw [run_lift_bind henv, run_lift_bind hid, run_lift_bind hp, run_lift_bind hb,
    run_bind_of_error (requestOk_reported hex hs hv)]

theorem remove_reported {rev : Value} (hp : db.path [docId] = .ok p)
    (hex : (exchange (.str "remove") docId "DELETE" p [(.str "rev", rev)] .none).run.run s =
      (.ok (status, bs), s₁))
    (hs : 400 ≤ status) (hv : decodeBody 5 (.str "remove") status bs = .ok v) :
    (db.remove docId rev).run.run s =
      (.error (.client (errorForStatus (.int status) v (.str "remove") docId)), s₁) := by
  unfold remove
  rw [run_lift_bind hp, run_bind_of_error (requestOk_reported hex hs hv)]

theorem upsert_reported {doc : Value} (hid : db.adapter.getId doc = .ok docId)
    (htruthy : docId.truthy = true) (hp : db.path [docId] = .ok p)
    (hex : (exchange (.str "upsert") docId "GET" p [] .none).run.run s = (.ok (status, bs), s₁))
    (hs : 400 ≤ status) (h404 : status ≠ 404) (hv : decodeBody 5 (.str "upsert") status bs = .ok v) :
    (db.upsert doc).run.run s =
      (.error (.client (errorForStatus (.int status) v (.str "upsert") docId), doc), s₁) := by
  have hkind : (errorForStatus (.int status) v (.str "upsert") docId).kind ≠ .notFound := by
    rw [(errorForStatus_int status v _ docId).1, statusKind, if_neg h404]
    split <;> simp
  unfold upsert
  rw [run_bind_of_ok (by simp [upsert.liftDoc, hid]; rfl)]
  simp only [htruthy, if_true]
  rw [run_bind_of_ok (by simp [upsert.liftDoc, hp]; rfl)]
  -- the read's failure is not a missing document, so it is thrown again
  refine run_bind_of_error ?_
  simp only [upsert.liftDoc, ExceptT.run_mk, StateT.run_bind]
  rw [run_tryCatch_of_error (requestOk_reported hex hs hv)]
  simp [hkind]
  rfl

theorem allDocs_reported {operation : String} {options : ViewRequest}
    {fields : List (Value × Value)} {b : RequestBody} (hq : options.toBody = .ok fields)
    (hp : db.path [.str "_all_docs"] = .ok p) (hb : jsonBody 3 (.dict fields) = .ok b)
    (hex : (exchange (.str operation) .null "POST" p [] b).run.run s = (.ok (status, bs), s₁))
    (hs : 400 ≤ status) (hv : decodeBody 5 (.str operation) status bs = .ok v) :
    (db.allDocs operation options).run.run s =
      (.error (.client (errorForStatus (.int status) v (.str operation) .null)), s₁) := by
  unfold allDocs
  rw [run_lift_bind hq, run_lift_bind hp, run_lift_bind hb,
    run_bind_of_error (requestOk_reported hex hs hv)]

theorem getBulk_reported {ids : Value} {params : ViewRequest} {keys : List Value}
    {options options' : ViewRequest} {fields : List (Value × Value)} {b : RequestBody}
    (hkeys : ids.items = .ok keys) (hdocs : params.set "include_docs" (.bool true) = .ok options)
    (hset : options.set "keys" (.list keys) = .ok options') (hq : options'.toBody = .ok fields)
    (hp : db.path [.str "_all_docs"] = .ok p) (hb : jsonBody 3 (.dict fields) = .ok b)
    (hex : (exchange (.str "get_bulk") .null "POST" p [] b).run.run s = (.ok (status, bs), s₁))
    (hs : 400 ≤ status) (hv : decodeBody 5 (.str "get_bulk") status bs = .ok v) :
    (db.getBulk ids params).run.run s =
      (.error (.client (errorForStatus (.int status) v (.str "get_bulk") .null)), s₁) := by
  unfold getBulk
  rw [run_lift_bind hkeys, run_lift_bind hdocs, run_lift_bind hset]
  exact allDocs_reported hq hp hb hex hs hv

theorem getAll_reported {params options : ViewRequest} {fields : List (Value × Value)}
    {b : RequestBody} (hdocs : params.set "include_docs" (.bool true) = .ok options)
    (hq : options.toBody = .ok fields) (hp : db.path [.str "_all_docs"] = .ok p)
    (hb : jsonBody 3 (.dict fields) = .ok b)
    (hex : (exchange (.str "get_all") .null "POST" p [] b).run.run s = (.ok (status, bs), s₁))
    (hs : 400 ≤ status) (hv : decodeBody 5 (.str "get_all") status bs = .ok v) :
    (db.getAll params).run.run s =
      (.error (.client (errorForStatus (.int status) v (.str "get_all") .null)), s₁) := by
  unfold getAll
  rw [run_lift_bind hdocs]
  exact allDocs_reported hq hp hb hex hs hv

theorem query_reported {design view : Value} {params : ViewRequest}
    {fields : List (Value × Value)} {b : RequestBody}
    (hp : db.path [.str "_design", design, .str "_view", view] = .ok p)
    (hq : params.toBody = .ok fields) (hb : jsonBody 3 (.dict fields) = .ok b)
    (hex : (exchange (.str "query") .null "POST" p [] b).run.run s = (.ok (status, bs), s₁))
    (hs : 400 ≤ status) (hv : decodeBody 5 (.str "query") status bs = .ok v) :
    (db.query design view params).run.run s =
      (.error (.client (errorForStatus (.int status) v (.str "query") .null)), s₁) := by
  unfold query
  rw [run_lift_bind hp, run_lift_bind hq, run_lift_bind hb,
    run_bind_of_error (requestOk_reported hex hs hv)]

theorem queryMany_reported {design view : Value} {queries : List ViewRequest}
    {bodies : List Value} {b : RequestBody}
    (hp : db.path [.str "_design", design, .str "_view", view, .str "queries"] = .ok p)
    (hq : (queries.mapM fun q => do
      let b ← q.toBody
      pure (Value.dict b)) = .ok bodies)
    (hb : jsonBody 3 (Value.obj [("queries", .list bodies)]) = .ok b)
    (hex : (exchange (.str "query_many") .null "POST" p [] b).run.run s = (.ok (status, bs), s₁))
    (hs : 400 ≤ status) (hv : decodeBody 5 (.str "query_many") status bs = .ok v) :
    (db.queryMany design view queries).run.run s =
      (.error (.client (errorForStatus (.int status) v (.str "query_many") .null)), s₁) := by
  unfold queryMany
  rw [run_lift_bind hp, run_lift_bind hq, run_lift_bind hb,
    run_bind_of_error (requestOk_reported hex hs hv)]

theorem find_reported {q : FindRequest} {fields : List (Value × Value)} {b : RequestBody}
    (hp : db.path [.str "_find"] = .ok p) (hq : q.toBody = .ok fields)
    (hb : jsonBody 3 (.dict fields) = .ok b)
    (hex : (exchange (.str "find") .null "POST" p [] b).run.run s = (.ok (status, bs), s₁))
    (hs : 400 ≤ status) (hv : decodeBody 5 (.str "find") status bs = .ok v) :
    (db.find q).run.run s = (.error (.client (errorForStatus (.int status) v (.str "find"))), s₁) := by
  unfold find
  rw [run_bind_of_error (findEnvelopes_failed hp hq hb hex hs), statusFailure_of_reads hv]

theorem exists_reported (hp : db.path [docId] = .ok p)
    (hex : (exchange (.str "exists") docId "HEAD" p [] .none).run.run s = (.ok (status, bs), s₁))
    (hok : status ≠ 200 ∧ status ≠ 304) (h404 : status ≠ 404) :
    (db.exists_ docId).run.run s =
      (.error (.client (errorForStatus (.int status) .null (.str "exists") docId)), s₁) := by
  unfold exists_
  rw [run_lift_bind hp, run_bind_of_ok hex]
  simp only [hok.1, hok.2, h404, or_self, if_false]
  rfl

theorem BulkRequestFails.of_request_error {envs : List Value} {depth : Nat} {b : RequestBody}
    {e e' : Error} {s' : Session} (hp : db.path [.str "_bulk_docs"] = .ok p)
    (hb : jsonBody (depth + 3) (.obj [("docs", .list envs)]) = .ok b)
    (hreq : (requestOk (depth + 2) (.str "bulk_docs") .null "POST" p [] b).run.run s = (.error e, s₁))
    (h : BulkRequestFails db depth envs s e' s') : e' = e ∧ s' = s₁ := by
  have hno : ∀ reply s'', ¬ BulkReply db depth envs s reply s'' := by
    rintro reply s'' ⟨p', b', hp', hb', hreq'⟩
    rw [hp, Except.ok.injEq] at hp'
    subst hp'
    rw [hb, Except.ok.injEq] at hb'
    subst hb'
    rw [hreq] at hreq'
    cases hreq'
  cases h with
  | path hpath =>
    rw [hp] at hpath
    cases hpath
  | body _ hjson =>
    rw [hb] at hjson
    cases hjson
  | request hp' hjson hreq' =>
    rw [hp, Except.ok.injEq] at hp'
    subst hp'
    rw [hb, Except.ok.injEq] at hjson
    subst hjson
    rw [hreq, Prod.mk.injEq] at hreq'
    obtain ⟨he, rfl⟩ := hreq'
    cases he
    exact ⟨rfl, rfl⟩
  | notList hbulk _ => exact absurd hbulk (hno _ _)
  | size hbulk _ => exact absurd hbulk (hno _ _)

theorem submit_reported {bt : Batch} {depth : Nat} {b : RequestBody}
    (hreasons : ∀ k ∈ bt.places, ∀ e, db.encodeForBatch depth (bt.view k) = .error e →
      (badDocumentReason e).isSome)
    (hne : (bt.atPlaces.filterMap fun d => (db.encodeForBatch depth d).toOption) ≠ [])
    (hp : db.path [.str "_bulk_docs"] = .ok p)
    (hb : jsonBody (depth + 3) (.obj [("docs", .list ((bt.atPlaces.filterMap fun d =>
      (db.encodeForBatch depth d).toOption).map .dict))]) = .ok b)
    (hex : (exchange (.str "bulk_docs") .null "POST" p [] b).run.run s = (.ok (status, bs), s₁))
    (hs : 400 ≤ status) (hv : decodeBody (depth + 5) (.str "bulk_docs") status bs = .ok v) :
    (db.submit bt depth).run.run s =
      (.error (.client (errorForStatus (.int status) v (.str "bulk_docs") .null), bt), s₁) := by
  have hreq : (requestOk (depth + 2) (.str "bulk_docs") .null "POST" p [] b).run.run s =
      (.error (.client (errorForStatus (.int status) v (.str "bulk_docs") .null)), s₁) :=
    requestOk_reported hex hs hv
  rcases hrun : (db.submit bt depth).run.run s with ⟨⟨e', b'⟩ | ⟨outs, b'⟩, s'⟩
  · rcases submit_error_inv hrun with ⟨-, -, hmap⟩ |
      ⟨-, -, ⟨rfl, hfails⟩ | ⟨entries, ⟨p', b'', hp', hb', hreq'⟩, -⟩⟩
    · obtain ⟨-, k, hk, he, hr⟩ := mapM_encodePlace_error db depth bt _ _ _ hmap
      exact absurd (hreasons k hk _ he) (by simp [hr])
    · obtain ⟨rfl, rfl⟩ := hfails.of_request_error hp hb hreq
      rfl
    · -- the request was answered, which this one was not
      rw [hp, Except.ok.injEq] at hp'
      subst hp'
      rw [hb, Except.ok.injEq] at hb'
      subst hb'
      rw [hreq] at hreq'
      cases hreq'
  · obtain ⟨-, entries, -, -, -, hsent⟩ := submit_ok_inv hrun
    obtain ⟨p', b'', hp', hb', hreq'⟩ := hsent hne
    rw [hp, Except.ok.injEq] at hp'
    subst hp'
    rw [hb, Except.ok.injEq] at hb'
    subst hb'
    rw [hreq] at hreq'
    cases hreq'

theorem submit_lift_of_error {α : Type} {bt : Batch} {c : Call α} {e : Error}
    (h : c.run.run s = (.error e, s₁)) : (submit.lift bt c).run.run s = (.error (e, bt), s₁) := by
  unfold submit.lift
  rw [ExceptT.run_mk, StateT.run_bind, h]
  rfl

theorem currentRevisions_reported {ids : List Value} {b : RequestBody} (hne : ids.isEmpty = false)
    (hp : db.path [.str "_all_docs"] = .ok p) (hb : jsonBody (3 + 2) (.obj [("keys", .list ids)]) = .ok b)
    (hex : (exchange (.str "bulk_upsert") .null "POST" p [] b).run.run s = (.ok (status, bs), s₁))
    (hs : 400 ≤ status) (hv : decodeBody 7 (.str "bulk_upsert") status bs = .ok v) :
    (db.currentRevisions ids 3).run.run s =
      (.error (.client (errorForStatus (.int status) v (.str "bulk_upsert") .null)), s₁) := by
  unfold currentRevisions
  simp only [hne, Bool.false_eq_true, ↓reduceIte]
  rw [run_lift_bind hp, run_lift_bind hb, run_bind_of_error (requestOk_reported hex hs hv)]

theorem bulkUpsert_reported {bt : Batch} {b : RequestBody}
    (hids : ∀ d ∈ bt.atPlaces, ∃ id, db.adapter.getId d = .ok id) :
    let ids := (bt.atPlaces.filterMap fun d => (db.adapter.getId d).toOption).filter (·.truthy)
    ids.isEmpty = false → db.path [.str "_all_docs"] = .ok p →
      jsonBody (3 + 2) (.obj [("keys", .list ids)]) = .ok b →
      (exchange (.str "bulk_upsert") .null "POST" p [] b).run.run s = (.ok (status, bs), s₁) →
      400 ≤ status → decodeBody 7 (.str "bulk_upsert") status bs = .ok v →
      (db.bulkUpsert bt).run.run s =
        (.error (.client (errorForStatus (.int status) v (.str "bulk_upsert") .null), bt), s₁) := by
  intro ids hne hp hb hex hs hv
  unfold bulkUpsert
  rw [run_bind_of_ok (mapM_getId_run (fun d u => by split <;> rename_i heq <;> rw [heq] <;> rfl) hids s)]
  exact run_bind_of_error (submit_lift_of_error (currentRevisions_reported hne hp hb hex hs hv))

end Database

theorem FindCursor.next_reported {c : FindCursor} {d : Nat} {fields : List (Value × Value)}
    {p : String} {b : RequestBody} (hrows : c.rows = []) (hdone : c.done = false)
    (hcap : FindCursor.reached c.yielded c.maxResults = .ok false)
    (hp : c.db.path [.str "_find"] = .ok p) (hq : c.query.toBody = .ok fields)
    (hb : jsonBody (d + 3) (.dict fields) = .ok b)
    (hex : (exchange (.str "find") .null "POST" p [] b).run.run s = (.ok (status, bs), s₁))
    (hs : 400 ≤ status) (hv : decodeBody (d + 5) (.str "find") status bs = .ok v) :
    (c.next d).run s = ((.error (.client (errorForStatus (.int status) v (.str "find"))), c), s₁) := by
  have hfetch := findEnvelopes_failed hp hq hb hex hs
  rw [statusFailure_of_reads hv] at hfetch
  exact FindCursor.next_of_fetch_error hrows hdone hcap (FindCursor.nextPage_of_fetch_error hfetch)

end DocClient
