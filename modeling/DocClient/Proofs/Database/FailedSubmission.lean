import DocClient.Proofs.Database.Submit
/-!
# How a bulk submission fails

A submission fails in encoding, in its one request, or in writing back; only the last changes
the batch (`submit_fails_by_stage`). One document can fail a whole batch
(`single_document_fails_whole_batch`).
-/
namespace DocClient

namespace Database

/-- The one request of a submission of `envs` is answered with `reply`. -/
def BulkReply (db : Database) (depth : Nat) (envs : List Value) (s : Session) (reply : Value)
    (s' : Session) : Prop :=
  ∃ p body, db.path [.str "_bulk_docs"] = .ok p ∧
    jsonBody (depth + 3) (.obj [("docs", .list envs)]) = .ok body ∧
    (requestOk (depth + 2) (.str "bulk_docs") .null "POST" p [] body).run.run s = (.ok reply, s')

/-- How the one request of a submission fails as a whole. -/
inductive BulkRequestFails (db : Database) (depth : Nat) (envs : List Value) (s : Session) :
    Error → Session → Prop
  | path {e : Error} : db.path [.str "_bulk_docs"] = .error e → BulkRequestFails db depth envs s e s
  | body {p : String} {e : Error} : db.path [.str "_bulk_docs"] = .ok p →
      jsonBody (depth + 3) (.obj [("docs", .list envs)]) = .error e → BulkRequestFails db depth envs s e s
  | request {p : String} {body : RequestBody} {e : Error} {s' : Session} :
      db.path [.str "_bulk_docs"] = .ok p → jsonBody (depth + 3) (.obj [("docs", .list envs)]) = .ok body →
      (requestOk (depth + 2) (.str "bulk_docs") .null "POST" p [] body).run.run s =
        (.error e, s') →
      BulkRequestFails db depth envs s e s'
  | notList {reply : Value} {s' : Session} : BulkReply db depth envs s reply s' →
      (∀ xs, reply ≠ .list xs) →
      BulkRequestFails db depth envs s
        (Error.service .decode "Expected a list of outcomes" (.str "bulk_docs")) s'
  | size {xs : List Value} {s' : Session} : BulkReply db depth envs s (.list xs) s' →
      xs.length ≠ envs.length →
      BulkRequestFails db depth envs s
        (Error.service .decode
          s!"Unexpected size of response: {xs.length} given size of request: {envs.length}"
          (.str "bulk_docs")) s'

section Request

variable {db : Database} {depth : Nat} {envs : List Value} {s : Session}

theorem BulkReply.body_ok {reply : Value} {s' : Session}
    (h : BulkReply db depth envs s reply s') :
    ∃ body, jsonBody (depth + 3) (.obj [("docs", .list envs)]) = .ok body := by
  obtain ⟨-, body, -, hbody, -⟩ := h
  exact ⟨body, hbody⟩

theorem BulkRequestFails.of_body_error {p : String} {e e' : Error} {s' : Session}
    (hp : db.path [.str "_bulk_docs"] = .ok p)
    (hbody : jsonBody (depth + 3) (.obj [("docs", .list envs)]) = .error e)
    (h : BulkRequestFails db depth envs s e' s') : e' = e ∧ s' = s := by
  have hno : ∀ body, jsonBody (depth + 3) (.obj [("docs", .list envs)]) ≠ .ok body := by
    intro body hok
    rw [hbody] at hok
    cases hok
  cases h with
  | path hpath =>
    rw [hp] at hpath
    cases hpath
  | body _ hjson =>
    rw [hbody] at hjson
    cases hjson
    exact ⟨rfl, rfl⟩
  | request _ hjson _ => exact absurd hjson (hno _)
  | notList hbulk _ =>
    obtain ⟨body, hjson⟩ := hbulk.body_ok
    exact absurd hjson (hno body)
  | size hbulk _ =>
    obtain ⟨body, hjson⟩ := hbulk.body_ok
    exact absurd hjson (hno body)

end Request

theorem encodePlace_error {db : Database} {depth : Nat} {b b' : Batch} {k : Nat} {e : Error}
    (h : db.encodePlace depth b k = .error (e, b')) :
    b' = b ∧ db.encodeForBatch depth (b.view k) = .error e ∧
      badDocumentReason e = none := by
  dsimp only [encodePlace] at h
  rcases hd : db.encodeForBatch depth (b.view k) with e' | env
  · rw [hd] at h
    dsimp only at h
    rcases hr : badDocumentReason e' with _ | reason
    · rw [hr] at h
      cases h
      exact ⟨rfl, rfl, hr⟩
    · rw [hr] at h
      cases h
  · rw [hd] at h
    cases h

theorem mapM_encodePlace_error (db : Database) (depth : Nat) (b : Batch) : ∀ (ks : List Nat) (e : Error)
    (b' : Batch), ks.mapM (db.encodePlace depth b) = .error (e, b') →
      b' = b ∧ ∃ k ∈ ks, db.encodeForBatch depth (b.view k) = .error e ∧
        badDocumentReason e = none
  | [], _, _, h => by cases h
  | k :: ks, e, b', h => by
    rw [List.mapM_cons] at h
    rcases hk : db.encodePlace depth b k with ⟨e', b''⟩ | x
    · rw [hk] at h
      cases h
      obtain ⟨rfl, he, hr⟩ := encodePlace_error hk
      exact ⟨rfl, k, List.mem_cons_self, he, hr⟩
    · rcases hks : ks.mapM (db.encodePlace depth b) with ⟨e', b''⟩ | xs
      · rw [hk, hks] at h
        cases h
        obtain ⟨rfl, k', hk', he, hr⟩ := mapM_encodePlace_error db depth b ks _ _ hks
        exact ⟨rfl, k', List.mem_cons_of_mem _ hk', he, hr⟩
      · rw [hk, hks] at h
        cases h

theorem submit_lift_error {α : Type} {b b' : Batch} {c : Call α} {s s' : Session} {e : Error}
    (h : (submit.lift b c).run.run s = (.error (e, b'), s')) :
    b' = b ∧ c.run.run s = (.error e, s') := by
  unfold submit.lift at h
  rw [ExceptT.run_mk, StateT.run_bind] at h
  rcases hc : c.run.run s with ⟨e' | a, s₁⟩
  · rw [hc] at h
    cases h
    exact ⟨rfl, rfl⟩
  · rw [hc] at h
    cases h

theorem submit_lift_call_error {α : Type} {b b' : Batch} {x : Except Error α} {s s' : Session}
    {e : Error} (h : (submit.lift b (Call.lift x)).run.run s = (.error (e, b'), s')) :
    b' = b ∧ s = s' ∧ x = .error e := by
  obtain ⟨rfl, hc⟩ := submit_lift_error h
  rw [Call.run_lift, Prod.mk.injEq] at hc
  exact ⟨rfl, hc.2, hc.1⟩

theorem mem_sent_places {db : Database} {depth : Nat} {b : Batch} {k : Nat} {env : List (Value × Value)}
    (h : .inr (k, env) ∈ b.places.map fun k => db.placeEntry depth k (b.view k)) :
    k ∈ b.places ∧ db.encodeForBatch depth (b.view k) = .ok env := by
  obtain ⟨k', hk', hentry⟩ := List.mem_map.mp h
  unfold placeEntry at hentry
  rcases he : db.encodeForBatch depth (b.view k') with e | env'
  · rw [he] at hentry
    cases hentry
  · rw [he] at hentry
    cases hentry
    exact ⟨hk', he⟩

theorem place_error (db : Database) : ∀ (encoded : List Encoded) (es : List Value)
    (outs : List WriteOutcome) (b : Batch) (e : Error) (b' : Batch),
    submit.place db encoded es outs b = .error (e, b') →
      ∃ k env, .inr (k, env) ∈ encoded ∧ ∃ c, db.writeBack (b'.documents.getD k .null) c = .error e
  | [], es, outs, b, e, b', h => by
    rw [submit.place] at h
    cases h
  | .inl o :: rest, es, outs, b, e, b', h => by
    rw [submit.place] at h
    obtain ⟨k, env, hk, hc⟩ := place_error db rest es _ b e b' h
    exact ⟨k, env, List.mem_cons_of_mem _ hk, hc⟩
  | .inr (k, env) :: rest, x :: es, outs, b, e, b', h => by
    rw [submit.place] at h
    -- a success is written back before the rest is paired; a failure is paired as it is
    split at h
    · split at h
      · obtain ⟨k', env', hk', hc⟩ := place_error db rest es _ _ e b' h
        exact ⟨k', env', List.mem_cons_of_mem _ hk', hc⟩
      · rename_i err hwb
        cases h
        exact ⟨k, env, List.mem_cons_self, _, hwb⟩
    · obtain ⟨k', env', hk', hc⟩ := place_error db rest es _ b e b' h
      exact ⟨k', env', List.mem_cons_of_mem _ hk', hc⟩
  | .inr _ :: rest, [], outs, b, e, b', h => by
    rw [submit.place] at h
    cases h

section Objects

variable {db : Database} (hdb : db.adapter = .envelope)
include hdb

theorem encodeForBatch_envelope_reason {depth : Nat} {d : Value} {e : Error}
    (h : db.encodeForBatch depth d = .error e) :
    (badDocumentReason e).isSome ∨ ∃ m, e = .recursion m := by
  unfold encodeForBatch at h
  rw [hdb] at h
  cases d with
  | dict es =>
    simp only [Adapter.toEnvelope, bind, Except.bind] at h
    -- past the id check, the JSON check keeps the failure's kind
    split at h
    case h_5 => cases h; exact .inl rfl
    all_goals
      split at h
      · cases h
      · rename_i f _
        cases h
        cases f <;> simp [Json.WriteFailure.toError, badDocumentReason]
  | _ => cases h; exact .inl rfl

theorem writeBack_object (fs : List (Value × Value)) (c : Created) :
    ∃ gs, db.writeBack (.dict fs) c = .ok (.dict gs) := by
  refine ⟨Value.put (Value.put fs Mark.id.key c.id) Mark.rev.key c.rev, ?_⟩
  simp [writeBack, Adapter.setId, Adapter.setRev, Adapter.setMark, Adapter.setMarkIn, hdb,
    bind, Except.bind, Except.map]

theorem eq_dict_of_encodeForBatch {d : Value} {env : List (Value × Value)}
    (h : db.encodeForBatch depth d = .ok env) : d = .dict env := by
  have henv := encodeForBatch_envelope h
  rw [hdb] at henv
  cases d with
  | dict es =>
    cases henv
    rfl
  | _ => cases henv

end Objects

theorem setDocument_object {b : Batch} {k k' : Nat} {gs : List (Value × Value)}
    (h : ∃ fs, b.documents.getD k' .null = .dict fs) :
    ∃ fs, (b.setDocument k (.dict gs)).documents.getD k' .null = .dict fs := by
  obtain ⟨fs, hfs⟩ := h
  simp only [Batch.setDocument, List.getD_eq_getElem?_getD, List.getElem?_set] at hfs ⊢
  split
  · split
    · exact ⟨gs, rfl⟩
    · rename_i hk hlen
      subst hk
      rw [List.getElem?_eq_none (Nat.le_of_not_lt hlen)] at hfs
      cases hfs
  · exact ⟨fs, hfs⟩

theorem place_ok_of_objects {db : Database} (hdb : db.adapter = .envelope) :
    ∀ (encoded : List Encoded) (es : List Value) (outs : List WriteOutcome) (b : Batch),
      (∀ k env, .inr (k, env) ∈ encoded → ∃ fs, b.documents.getD k .null = .dict fs) →
      ∀ e b', submit.place db encoded es outs b ≠ .error (e, b')
  | [], es, outs, b, _, e, b', h => by
    rw [submit.place] at h
    cases h
  | .inl o :: rest, es, outs, b, hobj, e, b', h => by
    rw [submit.place] at h
    exact place_ok_of_objects hdb rest es _ b
      (fun k env hk => hobj k env (List.mem_cons_of_mem _ hk)) e b' h
  | .inr (k, env) :: rest, x :: es, outs, b, hobj, e, b', h => by
    rw [submit.place] at h
    obtain ⟨fs, hfs⟩ := hobj k env List.mem_cons_self
    have hrest : ∀ k' env', .inr (k', env') ∈ rest → ∃ fs, b.documents.getD k' .null = .dict fs :=
      fun k' env' hk' => hobj k' env' (List.mem_cons_of_mem _ hk')
    split at h
    · obtain ⟨gs, hwb⟩ := writeBack_object hdb fs ⟨(WriteOutcome.ofEntry x).id, (WriteOutcome.ofEntry x).rev⟩
      rw [hfs, hwb] at h
      exact place_ok_of_objects hdb rest es _ _
        (fun k' env' hk' => setDocument_object (hrest k' env' hk')) e b' h
    · exact place_ok_of_objects hdb rest es _ b hrest e b' h
  | .inr _ :: rest, [], outs, b, _, e, b', h => by
    rw [submit.place] at h
    cases h

section Runs

variable {ε σ α β γ : Type}

theorem run_throw_bind_error {e e' : ε} {f : α → ExceptT ε (StateM σ) β} {s s' : σ}
    (h : (throw e >>= f : ExceptT ε (StateM σ) β).run.run s = (.error e', s')) :
    e' = e ∧ s' = s := by
  rcases run_bind_cases h with ⟨x, hx, hx'⟩ | ⟨a, s₁, ha, -⟩
  · cases hx
    cases hx'
    exact ⟨rfl, rfl⟩
  · cases ha

theorem run_mapM_bind_cases {F : α → ExceptT ε (StateM σ) β} (g : α → Except ε β)
    (hF : ∀ a s, (F a).run.run s = (g a, s)) {l : List α}
    {f : List β → ExceptT ε (StateM σ) γ} {s s' : σ} {r : Except ε γ}
    (h : (l.mapM F >>= f).run.run s = (r, s')) :
    (∃ e, l.mapM g = .error e ∧ s' = s ∧ r = .error e) ∨
      ∃ xs, l.mapM g = .ok xs ∧ (f xs).run.run s = (r, s') := by
  rcases run_bind_cases h with ⟨e, hmap, he⟩ | ⟨xs, s₁, hmap, hrest⟩
  · rw [mapM_run_of_pure F g hF, Prod.mk.injEq] at hmap
    exact .inl ⟨e, hmap.1, hmap.2.symm, he⟩
  · rw [mapM_run_of_pure F g hF, Prod.mk.injEq] at hmap
    obtain ⟨hmap, rfl⟩ := hmap
    exact .inr ⟨xs, hmap, hrest⟩

end Runs

theorem submit_error_inv {db : Database} {b : Batch} {depth : Nat} {s s' : Session}
    {e : Error} {b' : Batch} (h : (db.submit b depth).run.run s = (.error (e, b'), s')) :
    let encoded := b.places.map fun k => db.placeEntry depth k (b.view k)
    let envs := (b.atPlaces.filterMap fun d => (db.encodeForBatch depth d).toOption).map .dict
    (s' = s ∧ b' = b ∧ b.places.mapM (db.encodePlace depth b) = .error (e, b)) ∨
    ((∀ k ∈ b.places, ∀ e, db.encodeForBatch depth (b.view k) = .error e →
        (badDocumentReason e).isSome) ∧ envs ≠ [] ∧
      ((b' = b ∧ BulkRequestFails db depth envs s e s') ∨
        ∃ entries, BulkReply db depth envs s (.list entries) s' ∧
          entries.length = envs.length ∧ submit.place db encoded entries [] b = .error (e, b'))) := by
  intro encoded envs
  unfold submit at h
  have hstages := run_mapM_bind_cases (db.encodePlace depth b) ?encode h
  case encode =>
    intro k s
    dsimp only [encodePlace]
    rcases db.encodeForBatch depth (b.view k) with e | env
    · dsimp only
      rcases badDocumentReason e with _ | reason <;> rfl
    · rfl
  rcases hstages with ⟨x, hmap, rfl, hx⟩ | ⟨encoded', hmap, h⟩
  · -- a document failed to encode with no reason, before anything was sent
    cases hx
    obtain ⟨rfl, -⟩ := mapM_encodePlace_error db depth b _ _ _ hmap
    exact .inl ⟨rfl, rfl, hmap⟩
  obtain ⟨rfl, hreasons⟩ := mapM_encodePlace db depth b _ _ hmap
  rw [filterMap_placeEntry db depth b _ (fun _ _ => rfl) (fun _ => rfl)] at h
  dsimp only at h
  split at h
  · cases h
  rename_i hne
  have henvs : envs ≠ [] := fun he => hne (List.isEmpty_iff.mpr he)
  refine .inr ⟨hreasons, henvs, ?_⟩
  rcases run_bind_cases h with ⟨x, hp, hx⟩ | ⟨p, s₂, hp, h⟩
  · cases hx
    obtain ⟨rfl, rfl, hpath⟩ := submit_lift_call_error hp
    exact .inl ⟨rfl, .path hpath⟩
  obtain ⟨rfl, hpath⟩ := submit_lift_call_ok hp
  rcases run_bind_cases h with ⟨x, hbody, hx⟩ | ⟨body, s₃, hbody, h⟩
  · cases hx
    obtain ⟨rfl, rfl, hjson⟩ := submit_lift_call_error hbody
    exact .inl ⟨rfl, .body hpath hjson⟩
  obtain ⟨rfl, hjson⟩ := submit_lift_call_ok hbody
  rcases run_bind_cases h with ⟨x, hreply, hx⟩ | ⟨reply, s₄, hreply, h⟩
  · cases hx
    obtain ⟨rfl, hrequest⟩ := submit_lift_error hreply
    exact .inl ⟨rfl, .request hpath hjson hrequest⟩
  have hbulk : BulkReply db depth envs s reply s₄ := ⟨p, body, hpath, hjson, submit_lift_ok hreply⟩
  -- the reply must be a list, with one entry per envelope sent
  split at h
  · rename_i entries
    rcases run_bind_cases h with ⟨x, hpure, -⟩ | ⟨xs, s₅, hpure, h⟩
    · cases hpure
    cases hpure
    split at h
    · rename_i hlen
      obtain ⟨hx, rfl⟩ := run_throw_bind_error h
      cases hx
      exact .inl ⟨rfl, .size hbulk (by simpa [envs] using hlen)⟩
    rename_i hlen
    have hlen : entries.length = envs.length := by simpa [envs] using hlen
    -- past the checks, only the pairing with the places is left
    split at h
    · cases h
    · rename_i x hplace
      cases h
      exact .inr ⟨entries, hbulk, hlen, hplace⟩
  · rename_i hlist
    obtain ⟨hx, rfl⟩ := run_throw_bind_error h
    cases hx
    exact .inl ⟨rfl, .notList hbulk hlist⟩


theorem submit_of_encoding_error {db : Database} {b : Batch} {depth : Nat} {s : Session}
    {e : Error} (h : b.places.mapM (db.encodePlace depth b) = .error (e, b)) :
    (db.submit b depth).run.run s = (.error (e, b), s) := by
  obtain ⟨-, k, hk, he, hr⟩ := mapM_encodePlace_error db depth b _ _ _ h
  rcases hrun : (db.submit b depth).run.run s with ⟨⟨e', b'⟩ | ⟨outs, b'⟩, s'⟩
  · rcases submit_error_inv hrun with ⟨rfl, rfl, hmap⟩ | ⟨hreasons, -⟩
    · rw [h] at hmap
      cases hmap
      rfl
    · exact absurd (hreasons k hk e he) (by simp [hr])
  · exact absurd ((submit_ok_inv hrun).1 k hk e he) (by simp [hr])

theorem submit_of_body_error {db : Database} {b : Batch} {depth : Nat} {s : Session}
    {p : String} {e : Error}
    (hreasons : ∀ k ∈ b.places, ∀ e, db.encodeForBatch depth (b.view k) = .error e →
      (badDocumentReason e).isSome)
    (hne : (b.atPlaces.filterMap fun d => (db.encodeForBatch depth d).toOption) ≠ [])
    (hp : db.path [.str "_bulk_docs"] = .ok p)
    (hbody : jsonBody (depth + 3) (.obj [("docs", .list ((b.atPlaces.filterMap fun d =>
      (db.encodeForBatch depth d).toOption).map .dict))]) = .error e) :
    (db.submit b depth).run.run s = (.error (e, b), s) := by
  rcases hrun : (db.submit b depth).run.run s with ⟨⟨e', b'⟩ | ⟨outs, b'⟩, s'⟩
  · rcases submit_error_inv hrun with ⟨-, -, hmap⟩ |
      ⟨-, -, ⟨rfl, hfails⟩ | ⟨entries, hbulk, -⟩⟩
    · obtain ⟨-, k, hk, he, hr⟩ := mapM_encodePlace_error db depth b _ _ _ hmap
      exact absurd (hreasons k hk _ he) (by simp [hr])
    · obtain ⟨rfl, rfl⟩ := hfails.of_body_error hp hbody
      rfl
    · obtain ⟨body, hjson⟩ := hbulk.body_ok
      rw [hbody] at hjson
      cases hjson
  · obtain ⟨-, entries, -, -, -, hsent⟩ := submit_ok_inv hrun
    obtain ⟨p', body, -, hjson, -⟩ := hsent hne
    rw [hbody] at hjson
    cases hjson

/-- A submission fails in encoding, in its request, or in writing back, as the stages allow. -/
theorem submit_fails_by_stage (db : Database) (b : Batch) (depth : Nat) (s s' : Session)
    (e : Error) (b' : Batch) (h : (db.submit b depth).run.run s = (.error (e, b'), s')) :
    let envs := (b.atPlaces.filterMap fun d => (db.encodeForBatch depth d).toOption).map .dict
    ((s' = s ∧ b' = b ∧ ∃ d ∈ b.atPlaces, db.encodeForBatch depth d = .error e ∧
        badDocumentReason e = none) ∨
      (b' = b ∧ envs ≠ [] ∧ BulkRequestFails db depth envs s e s') ∨
      (envs ≠ [] ∧ (∃ entries, BulkReply db depth envs s (.list entries) s' ∧
          entries.length = envs.length) ∧
        ∃ k ∈ b.places, (db.encodeForBatch depth (b.view k)).isOk ∧
          ∃ c, db.writeBack (b'.documents.getD k .null) c = .error e)) ∧
    (db.adapter = .envelope → b' = b ∧
      ((s' = s ∧ ∃ d ∈ b.atPlaces, db.encodeForBatch depth d = .error e ∧ ∃ m, e = .recursion m) ∨
        (envs ≠ [] ∧ BulkRequestFails db depth envs s e s'))) := by
  intro envs
  have hstages := submit_error_inv h
  refine ⟨?_, fun hdb => ?_⟩
  · rcases hstages with ⟨rfl, rfl, hmap⟩ | ⟨-, henvs, ⟨rfl, hrequest⟩ | ⟨entries, hbulk, hlen, hplace⟩⟩
    · obtain ⟨-, k, hk, he, hr⟩ := mapM_encodePlace_error db depth _ _ _ _ hmap
      exact .inl ⟨rfl, rfl, _, List.mem_map_of_mem hk, he, hr⟩
    · exact .inr (.inl ⟨rfl, henvs, hrequest⟩)
    · obtain ⟨k, env, hk, c, hwb⟩ := place_error db _ _ _ _ _ _ hplace
      obtain ⟨hkp, henc⟩ := mem_sent_places hk
      refine .inr (.inr ⟨henvs, ⟨entries, hbulk, hlen⟩, k, hkp, ?_, c, hwb⟩)
      rw [henc]
      rfl
  · rcases hstages with ⟨rfl, rfl, hmap⟩ | ⟨-, henvs, ⟨rfl, hrequest⟩ | ⟨entries, -, -, hplace⟩⟩
    · -- a raw document that cannot be encoded and has no reason ran out of room
      obtain ⟨-, k, hk, he, hr⟩ := mapM_encodePlace_error db depth _ _ _ _ hmap
      rcases encodeForBatch_envelope_reason hdb he with hsome | hdeep
      · rw [hr] at hsome
        cases hsome
      · exact ⟨rfl, .inl ⟨rfl, _, List.mem_map_of_mem hk, he, hdeep⟩⟩
    · exact ⟨rfl, .inr ⟨henvs, hrequest⟩⟩
    · -- the places sent hold objects, and a write-back into an object succeeds
      refine absurd hplace (place_ok_of_objects hdb _ _ _ _ (fun k env hk => ?_) e b')
      obtain ⟨-, henc⟩ := mem_sent_places hk
      exact Batch.view_eq_dict (eq_dict_of_encodeForBatch hdb henc)

/-- A raw object in a batch of typed records stops the submission at its encoding. -/
theorem submit_fails_by_stage_raw_object :
    let db : Database := ⟨"users", .model .user⟩
    let b : Batch := Batch.ofList [.dict [(.str "name", .str "x"), (.str "age", .int 1)]]
    let s : Session := { base := { scheme := "http", host := "couch.test", path := "/" },
                         authorization := none, stem := .str "", script := [] }
    let e : Error := .attribute "dict" "_couch_id"
    (db.submit b 1).run.run s = (.error (e, b), s) ∧
      let envs := (b.atPlaces.filterMap fun d => (db.encodeForBatch 1 d).toOption).map .dict
      ((s = s ∧ b = b ∧ ∃ d ∈ b.atPlaces, db.encodeForBatch 1 d = .error e ∧
          badDocumentReason e = none) ∨
        (b = b ∧ envs ≠ [] ∧ BulkRequestFails db 1 envs s e s) ∨
        (envs ≠ [] ∧ (∃ entries, BulkReply db 1 envs s (.list entries) s ∧
            entries.length = envs.length) ∧
          ∃ k ∈ b.places, (db.encodeForBatch 1 (b.view k)).isOk ∧
            ∃ c, db.writeBack (b.documents.getD k .null) c = .error e)) ∧
      (db.adapter = .envelope → b = b ∧
        ((s = s ∧ ∃ d ∈ b.atPlaces, db.encodeForBatch 1 d = .error e ∧ ∃ m, e = .recursion m) ∨
          (envs ≠ [] ∧ BulkRequestFails db 1 envs s e s))) := by
  intro db b s e
  have h : (db.submit b 1).run.run s = (.error (e, b), s) := submit_of_encoding_error rfl
  exact ⟨h, submit_fails_by_stage db b 1 s s e b h⟩

/-- Two batches that one document fails as a whole, before anything is sent. -/
theorem single_document_fails_whole_batch :
    let s : Session := { base := { scheme := "http", host := "couch.test", path := "/" },
                         authorization := none, stem := .str "", script := [] }
    let typed : Database := ⟨"users", .model .user⟩
    let raw : Database := ⟨"users", .envelope⟩
    let object : Value := .dict [(.str "name", .str "x"), (.str "age", .int 1)]
    let surrogate : Value :=
      .dict [(.str "_id", .str "a"), (.str "v", .str ⟨[.char 'x', .surrogate 0]⟩)]
    ((typed.submit (Batch.ofList [object]) 1).run.run s =
        (.error (.attribute "dict" "_couch_id", Batch.ofList [object]), s) ∧
      (Error.attribute "dict" "_couch_id").className = "AttributeError") ∧
    ((raw.encodeForBatch 1 surrogate).isOk = true ∧
      (raw.submit (Batch.ofList [surrogate]) 1).run.run s =
        (.error (.unencodable ⟨26, [0]⟩, Batch.ofList [surrogate]), s) ∧
      (Error.unencodable ⟨26, [0]⟩).className = "UnicodeEncodeError") := by
  intro s typed raw object surrogate
  refine ⟨⟨submit_of_encoding_error rfl, rfl⟩, by decide +kernel, ?_, rfl⟩
  have henc : raw.encodeForBatch 1 surrogate =
      .ok [(.str "_id", .str "a"), (.str "v", .str ⟨[.char 'x', .surrogate 0]⟩)] := rfl
  have henvs : ((Batch.ofList [surrogate]).atPlaces.filterMap fun d =>
      (raw.encodeForBatch 1 d).toOption) =
      [[(.str "_id", .str "a"), (.str "v", .str ⟨[.char 'x', .surrogate 0]⟩)]] := by
    simp [Batch.atPlaces_ofList, henc, Except.toOption]
  have hp : raw.path [.str "_bulk_docs"] = .ok "users/_bulk_docs" := by
    change Database.path ⟨"users", .envelope⟩ [.str "_bulk_docs"] = .ok "users/_bulk_docs"
    rfl
  -- the body's text is written, and its lone surrogate stops the UTF-8 encoding at 26
  have hbody : jsonBody (1 + 3) (.obj [("docs", .list ([[(.str "_id", .str "a"),
      (.str "v", .str ⟨[.char 'x', .surrogate 0]⟩)]].map .dict))]) =
      .error (.unencodable ⟨26, [0]⟩) := by
    have htext : (Json.write Json.Style.wire (Json.stackRoom - (1 + 3 + 7)) (.obj [("docs", .list ([[(.str "_id", .str "a"),
        (.str "v", .str ⟨[.char 'x', .surrogate 0]⟩)]].map .dict))])).toOption =
        some ⟨"\x7b\"docs\":[\x7b\"_id\":\"a\",\"v\":\"x".toList.map .char ++ [.surrogate 0] ++
          "\"\x7d]\x7d".toList.map .char⟩ := by
      decide +kernel
    unfold jsonBody
    split
    · rename_i text hw
      rw [hw] at htext
      cases htext
      rfl
    · rename_i f hw
      rw [hw] at htext
      cases htext
  refine submit_of_body_error ?_ (by rw [henvs]; exact List.cons_ne_nil _ _) hp (henvs ▸ hbody)
  intro k hk e he
  simp only [Batch.ofList, List.length_singleton, List.range_one, List.mem_singleton] at hk
  subst hk
  rw [Batch.view_of_holds_nil rfl] at he
  change raw.encodeForBatch 1 surrogate = .error e at he
  rw [henc] at he
  cases he

end Database

end DocClient
