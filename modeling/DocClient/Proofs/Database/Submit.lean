import DocClient.Proofs.Database.Held
import DocClient.Proofs.Http.Exchange
/-!
# The outcomes of a bulk submission, place by place

The outcomes of the documents set aside and of those sent are merged back in place, so the
outcome at place `i` is about the document there (`submit_outcomes_by_place`).
-/
namespace DocClient

namespace Database

/-- What encoding keeps for one place: an outcome set aside, or the envelope to send. -/
abbrev Encoded := WriteOutcome ⊕ (Nat × List (Value × Value))

/-- The step a submission runs at each place. -/
def encodePlace (db : Database) (depth : Nat) (b : Batch) (k : Nat) : Except (Error × Batch) Encoded :=
  let d := b.view k
  match db.encodeForBatch depth d with
  | .ok env => .ok (.inr (k, env))
  | .error e =>
    match badDocumentReason e with
    | some reason =>
      .ok (.inl { id := db.reportedId d, error := .str "bad_document", reason := .str reason })
    | none => .error (e, b)

/-- What a step keeps for the document `d` at place `k`, when the step goes on. -/
def placeEntry (db : Database) (depth : Nat) (k : Nat) (d : Value) : Encoded :=
  match db.encodeForBatch depth d with
  | .ok env => .inr (k, env)
  | .error e =>
    .inl { id := db.reportedId d, error := .str "bad_document",
           reason := .str ((badDocumentReason e).getD "") }

/-- The outcomes of the places: set-aside outcomes, and the reply's entries for those sent. -/
def mergeEntries : List Encoded → List Value → List WriteOutcome
  | [], _ => []
  | .inl o :: rest, es => o :: mergeEntries rest es
  | .inr _ :: rest, e :: es => WriteOutcome.ofEntry e :: mergeEntries rest es
  | .inr _ :: _, [] => []

theorem encodePlace_ok {db : Database} {b : Batch} {k : Nat} {x : Encoded}
    (h : db.encodePlace depth b k = .ok x) :
    x = db.placeEntry depth k (b.view k) ∧
      ∀ e, db.encodeForBatch depth (b.view k) = .error e →
        (badDocumentReason e).isSome := by
  dsimp only [encodePlace] at h
  unfold placeEntry
  generalize b.view k = d at h ⊢
  rcases hd : db.encodeForBatch depth d with e | env
  · rw [hd] at h
    dsimp only at h
    rcases hr : badDocumentReason e with _ | reason
    · rw [hr] at h
      cases h
    · rw [hr] at h
      cases h
      simp [hr]
  · rw [hd] at h
    cases h
    simp

theorem mapM_encodePlace (db : Database) (depth : Nat) (b : Batch) : ∀ (ks : List Nat) (encoded : List Encoded),
    ks.mapM (db.encodePlace depth b) = .ok encoded →
      encoded = ks.map (fun k => db.placeEntry depth k (b.view k)) ∧
      ∀ k ∈ ks, ∀ e, db.encodeForBatch depth (b.view k) = .error e →
        (badDocumentReason e).isSome
  | [], encoded, h => by
    cases h
    simp
  | k :: ks, encoded, h => by
    rw [List.mapM_cons] at h
    rcases hk : db.encodePlace depth b k with e | x
    · rw [hk] at h
      cases h
    · rcases hks : ks.mapM (db.encodePlace depth b) with e | xs
      · rw [hk, hks] at h
        cases h
      · rw [hk, hks] at h
        cases h
        obtain ⟨rfl, hreason⟩ := encodePlace_ok hk
        obtain ⟨rfl, hreasons⟩ := mapM_encodePlace db depth b ks xs hks
        refine ⟨rfl, ?_⟩
        intro k' hk' e he
        rcases List.mem_cons.mp hk' with rfl | hk'
        · exact hreason e he
        · exact hreasons k' hk' e he

theorem length_filterMap_sent (f : Encoded → Option Value)
    (hsent : ∀ k env, f (.inr (k, env)) = some (.dict env)) (hset : ∀ o, f (.inl o) = none) :
    ∀ encoded : List Encoded, (encoded.filterMap f).length = encoded.countP Sum.isRight
  | [] => rfl
  | .inl o :: rest => by simp [hset, length_filterMap_sent f hsent hset rest]
  | .inr (k, env) :: rest => by
    simp [hsent, List.countP_cons, length_filterMap_sent f hsent hset rest]

section Encoded

variable (db : Database) (depth : Nat) (b : Batch)

theorem filterMap_placeEntry (f : Encoded → Option Value)
    (hsent : ∀ k env, f (.inr (k, env)) = some (.dict env)) (hset : ∀ o, f (.inl o) = none) :
    (b.places.map fun k => db.placeEntry depth k (b.view k)).filterMap f =
      (b.atPlaces.filterMap fun d => (db.encodeForBatch depth d).toOption).map .dict := by
  rw [Batch.atPlaces, List.filterMap_map, List.filterMap_map, List.map_filterMap]
  congr 1
  funext k
  simp only [Function.comp_apply, placeEntry]
  cases db.encodeForBatch depth (b.view k) <;> simp [hsent, hset, Except.toOption]

theorem countP_sent_eq :
    (b.places.map fun k => db.placeEntry depth k (b.view k)).countP Sum.isRight =
      (b.atPlaces.filterMap fun d => (db.encodeForBatch depth d).toOption).length := by
  let f : Encoded → Option Value := Sum.elim (fun _ => none) (fun x => some (.dict x.2))
  rw [← length_filterMap_sent f (fun _ _ => rfl) (fun _ => rfl),
    filterMap_placeEntry db depth b f (fun _ _ => rfl) (fun _ => rfl), List.length_map]

theorem countP_placeEntry (i : Nat) :
    ((b.places.map fun k => db.placeEntry depth k (b.view k)).take i).countP
        Sum.isRight =
      (b.atPlaces.take i).countP fun d => (db.encodeForBatch depth d).isOk := by
  rw [← List.map_take, Batch.atPlaces, ← List.map_take, List.countP_map, List.countP_map]
  apply List.countP_congr
  intro k _
  simp only [Function.comp_apply, placeEntry]
  cases db.encodeForBatch depth (b.view k) <;> simp [Except.isOk, Except.toBool]

end Encoded

theorem place_outcomes (db : Database) : ∀ (encoded : List Encoded) (es : List Value)
    (outs outs' : List WriteOutcome) (b b' : Batch),
    submit.place db encoded es outs b = .ok (outs', b') →
      outs' = outs.reverse ++ mergeEntries encoded es
  | [], es, outs, outs', b, b', h => by
    rw [submit.place] at h
    cases h
    simp [mergeEntries]
  | .inl o :: rest, es, outs, outs', b, b', h => by
    rw [submit.place] at h
    rw [place_outcomes db rest es (o :: outs) outs' b b' h]
    simp [mergeEntries]
  | .inr (k, env) :: rest, e :: es, outs, outs', b, b', h => by
    rw [submit.place] at h
    have hrest : ∀ b'', submit.place db rest es (WriteOutcome.ofEntry e :: outs) b'' =
        .ok (outs', b') → outs' = outs.reverse ++ mergeEntries (.inr (k, env) :: rest) (e :: es) := by
      intro b'' h
      rw [place_outcomes db rest es _ outs' b'' b' h]
      simp [mergeEntries]
    -- a success writes back first, which changes the batch but not the outcomes
    split at h
    · split at h
      · exact hrest _ h
      · cases h
    · exact hrest _ h
  | .inr _ :: rest, [], outs, outs', b, b', h => by
    rw [submit.place] at h
    cases h
    simp [mergeEntries]

theorem filterMap_set_aside (g : Encoded → Option WriteOutcome) (hg : ∀ o, g (.inl o) = some o)
    (es : List Value) :
    ∀ encoded : List Encoded, encoded.countP Sum.isRight = 0 →
      encoded.filterMap g = mergeEntries encoded es
  | [], _ => rfl
  | .inl o :: rest, h => by
    simp only [List.filterMap_cons, hg, mergeEntries]
    rw [filterMap_set_aside g hg es rest (by simpa [List.countP_cons] using h)]
  | .inr _ :: rest, h => by simp [List.countP_cons] at h

theorem mergeEntries_length : ∀ (encoded : List Encoded) (es : List Value),
    encoded.countP Sum.isRight ≤ es.length → (mergeEntries encoded es).length = encoded.length
  | [], _, _ => rfl
  | .inl _ :: rest, es, h => by
    simp only [mergeEntries, List.length_cons,
      mergeEntries_length rest es (by simpa [List.countP_cons] using h)]
  | .inr _ :: rest, e :: es, h => by
    simp only [mergeEntries, List.length_cons,
      mergeEntries_length rest es (by simpa [List.countP_cons] using h)]
  | .inr _ :: rest, [], h => by simp at h

theorem mergeEntries_getElem?_inl : ∀ (encoded : List Encoded) (es : List Value) (i : Nat)
    (o : WriteOutcome), encoded.countP Sum.isRight ≤ es.length → encoded[i]? = some (.inl o) →
      (mergeEntries encoded es)[i]? = some o
  | [], _, _, _, _, hx => by simp at hx
  | .inl o' :: rest, es, 0, o, _, hx => by simpa [mergeEntries] using hx
  | .inl _ :: rest, es, i + 1, o, h, hx => by
    simpa [mergeEntries] using mergeEntries_getElem?_inl rest es i o
      (by simpa [List.countP_cons] using h) (by simpa using hx)
  | .inr _ :: rest, e :: es, 0, o, _, hx => by simp at hx
  | .inr _ :: rest, e :: es, i + 1, o, h, hx => by
    simpa [mergeEntries] using mergeEntries_getElem?_inl rest es i o
      (by simpa [List.countP_cons] using h) (by simpa using hx)
  | .inr _ :: rest, [], _, _, h, _ => by simp at h

theorem mergeEntries_getElem?_inr : ∀ (encoded : List Encoded) (es : List Value) (i : Nat)
    (x : Nat × List (Value × Value)),
    encoded.countP Sum.isRight ≤ es.length → encoded[i]? = some (.inr x) →
      ∃ e, es[(encoded.take i).countP Sum.isRight]? = some e ∧
        (mergeEntries encoded es)[i]? = some (WriteOutcome.ofEntry e)
  | [], _, _, _, _, hx => by simp at hx
  | .inl o' :: rest, es, 0, x, _, hx => by simp at hx
  | .inl _ :: rest, es, i + 1, x, h, hx => by
    simpa [mergeEntries] using mergeEntries_getElem?_inr rest es i x
      (by simpa [List.countP_cons] using h) (by simpa using hx)
  | .inr _ :: rest, e :: es, 0, x, _, hx => ⟨e, rfl, rfl⟩
  | .inr _ :: rest, e :: es, i + 1, x, h, hx => by
    simpa [mergeEntries, List.countP_cons] using mergeEntries_getElem?_inr rest es i x
      (by simpa [List.countP_cons] using h) (by simpa using hx)
  | .inr _ :: rest, [], _, _, h, _ => by simp at h

theorem getElem?_filterMap_countP {α β : Type} (f : α → Option β) :
    ∀ (l : List α) (i : Nat) (a : α) (x : β), l[i]? = some a → f a = some x →
      (l.filterMap f)[(l.take i).countP fun y => (f y).isSome]? = some x
  | [], _, _, _, ha, _ => by simp at ha
  | c :: l, 0, a, x, ha, hf => by
    cases ha
    simp [hf]
  | c :: l, i + 1, a, x, ha, hf => by
    have ih := getElem?_filterMap_countP f l i a x (by simpa using ha) hf
    rcases hc : f c with _ | y
    · simpa [hc, List.countP_cons] using ih
    · simpa [hc, List.countP_cons] using ih

theorem encodeForBatch_envelope {db : Database} {depth : Nat} {d : Value} {env : List (Value × Value)}
    (h : db.encodeForBatch depth d = .ok env) : db.adapter.toEnvelope d = .ok env := by
  unfold encodeForBatch at h
  rcases he : db.adapter.toEnvelope d with e | env'
  · rw [he] at h
    cases h
  · rw [he] at h
    simp only [bind, Except.bind] at h
    -- an id of the wrong kind fails; past the id, the JSON check passes the envelope on or fails
    split at h
    case h_5 => cases h
    all_goals
      split at h
      · cases h
        rfl
      · cases h

theorem submit_lift_ok {α : Type} {b : Batch} {c : Call α} {s s' : Session} {a : α}
    (h : (submit.lift b c).run.run s = (.ok a, s')) : c.run.run s = (.ok a, s') := by
  unfold submit.lift at h
  rw [ExceptT.run_mk, StateT.run_bind] at h
  rcases hc : c.run.run s with ⟨_ | a', s₁⟩
  · rw [hc] at h
    cases h
  · rw [hc] at h
    cases h
    rfl

theorem submit_lift_of_ok {α : Type} {b : Batch} {c : Call α} {s t : Session} {a : α}
    (h : c.run.run s = (.ok a, t)) : (submit.lift b c).run.run s = (.ok a, t) := by
  unfold submit.lift
  rw [ExceptT.run_mk, StateT.run_bind, h]
  rfl

theorem submit_lift_call_ok {α : Type} {b : Batch} {x : Except Error α} {s s' : Session} {a : α}
    (h : (submit.lift b (Call.lift x)).run.run s = (.ok a, s')) : s = s' ∧ x = .ok a := by
  have hc := submit_lift_ok h
  rw [Call.run_lift, Prod.mk.injEq] at hc
  exact ⟨hc.2, hc.1⟩

theorem submit_ok_stages {db : Database} {b : Batch} {depth : Nat} {s s' : Session}
    {outs : List WriteOutcome} {b' : Batch}
    (h : (db.submit b depth).run.run s = (.ok (outs, b'), s')) :
    let encoded := b.places.map fun k => db.placeEntry depth k (b.view k)
    let envs := b.atPlaces.filterMap fun d => (db.encodeForBatch depth d).toOption
    (∀ k ∈ b.places, ∀ e, db.encodeForBatch depth (b.view k) = .error e →
      (badDocumentReason e).isSome) ∧
    ((envs = [] ∧ s' = s ∧ b' = b ∧ outs = mergeEntries encoded []) ∨
      (envs ≠ [] ∧ ∃ p body entries, db.path [.str "_bulk_docs"] = .ok p ∧
        jsonBody (depth + 3) (.obj [("docs", .list (envs.map .dict))]) = .ok body ∧
        (requestOk (depth + 2) (.str "bulk_docs") .null "POST" p [] body).run.run s =
          (.ok (.list entries), s') ∧ entries.length = envs.length ∧
        submit.place db encoded entries [] b = .ok (outs, b'))) := by
  intro encoded envs
  unfold submit at h
  obtain ⟨encoded', s₁, hmap, h⟩ := run_bind_ok h
  -- the encoding stage touches no session: it is the plain `mapM` of the steps
  rw [mapM_run_of_pure _ (db.encodePlace depth b) ?encode, Prod.mk.injEq] at hmap
  case encode =>
    intro k s
    dsimp only [encodePlace]
    rcases db.encodeForBatch depth (b.view k) with e | env
    · dsimp only
      rcases badDocumentReason e with _ | reason <;> rfl
    · rfl
  obtain ⟨hmap, rfl⟩ := hmap
  obtain ⟨rfl, hreasons⟩ := mapM_encodePlace db depth b _ _ hmap
  refine ⟨hreasons, ?_⟩
  have hcount : encoded.countP Sum.isRight = envs.length := countP_sent_eq db depth b
  rw [filterMap_placeEntry db depth b _ (fun _ _ => rfl) (fun _ => rfl)] at h
  dsimp only at h
  split at h
  · rename_i hempty
    have henvs : envs = [] := List.map_eq_nil_iff.mp (List.isEmpty_iff.mp hempty)
    cases h
    exact .inl ⟨henvs, rfl, rfl,
      filterMap_set_aside _ (fun _ => rfl) [] encoded (by rw [hcount, henvs]; rfl)⟩
  · rename_i hne
    have henvs : envs ≠ [] := fun he => hne (List.isEmpty_iff.mpr (List.map_eq_nil_iff.mpr he))
    obtain ⟨p, s₂, hp, h₁⟩ := run_bind_ok h
    obtain ⟨body, s₃, hbody, h₂⟩ := run_bind_ok h₁
    obtain ⟨reply, s₄, hreply, h₃⟩ := run_bind_ok h₂
    obtain ⟨rfl, hpath⟩ := submit_lift_call_ok hp
    obtain ⟨rfl, hjson⟩ := submit_lift_call_ok hbody
    replace hreply := submit_lift_ok hreply
    -- the reply must be a list, with one entry per envelope sent
    split at h₃
    · rename_i entries
      obtain ⟨xs, s₅, hpure, h₄⟩ := run_bind_ok h₃
      cases hpure
      split at h₄
      · exact (run_throw_bind h₄).elim
      rename_i hlen
      have hlen : entries.length = envs.length := by simpa using hlen
      split at h₄
      · rename_i r hplace
        cases h₄
        exact .inr ⟨henvs, p, body, entries, hpath, hjson, hreply, hlen, hplace⟩
      · cases h₄
    · exact (run_throw_bind h₃).elim

/-- A submission that returns went through its stages. -/
theorem submit_ok_inv {db : Database} {b : Batch} {depth : Nat} {s s' : Session}
    {outs : List WriteOutcome} {b' : Batch}
    (h : (db.submit b depth).run.run s = (.ok (outs, b'), s')) :
    let encoded := b.places.map fun k => db.placeEntry depth k (b.view k)
    let envs := b.atPlaces.filterMap fun d => (db.encodeForBatch depth d).toOption
    (∀ k ∈ b.places, ∀ e, db.encodeForBatch depth (b.view k) = .error e →
      (badDocumentReason e).isSome) ∧
    ∃ entries, outs = mergeEntries encoded entries ∧ entries.length = envs.length ∧
      (envs = [] → s' = s ∧ entries = []) ∧
      (envs ≠ [] → ∃ p body, db.path [.str "_bulk_docs"] = .ok p ∧
        jsonBody (depth + 3) (.obj [("docs", .list (envs.map .dict))]) = .ok body ∧
        (requestOk (depth + 2) (.str "bulk_docs") .null "POST" p [] body).run.run s =
          (.ok (.list entries), s')) := by
  intro encoded envs
  obtain ⟨hreasons, ⟨henvs, rfl, -, houts⟩ |
    ⟨hne, p, body, entries, hpath, hjson, hreply, hlen, hplace⟩⟩ := submit_ok_stages h
  · exact ⟨hreasons, [], houts, by simp [envs, henvs], fun _ => ⟨rfl, rfl⟩, fun hne => absurd henvs hne⟩
  · have houts := place_outcomes db encoded entries [] outs b b' hplace
    exact ⟨hreasons, entries, by simpa using houts, hlen, fun he => absurd he hne,
      fun _ => ⟨p, body, hpath, hjson, hreply⟩⟩

end Database

namespace WriteOutcome

theorem ok_iff (o : WriteOutcome) : o.ok = true ↔ o.error = .null := by
  unfold ok
  cases o.error <;> simp

theorem ofEntry_ok_iff (entry : Value) :
    (ofEntry entry).ok = true ↔ ∃ es, entry = .dict es ∧ (Value.getD es "error").truthy = false ∧
      (Value.getD es "id").truthy = true ∧ (Value.getD es "rev").truthy = true := by
  cases entry with
  | dict es =>
    simp only [ofEntry, Value.dict.injEq, exists_eq_left', ok_iff]
    by_cases herr : (Value.getD es "error").truthy = true
    · have hnull : Value.getD es "error" ≠ .null := fun h => by simp [h, Value.truthy] at herr
      simp [herr, hnull]
    · by_cases hid : (Value.getD es "id").truthy = true <;>
        by_cases hrev : (Value.getD es "rev").truthy = true <;> simp [herr, hid, hrev]
  | _ => simp [ofEntry, ok]

end WriteOutcome

namespace Database

/-- A submission returns one outcome per place, sending at most one request of the envelopes. -/
theorem submit_outcomes_by_place (db : Database) (b : Batch) (depth : Nat) (s s' : Session)
    (outs : List WriteOutcome) (b' : Batch)
    (h : (db.submit b depth).run.run s = (.ok (outs, b'), s')) :
    let docs := b.atPlaces
    let envs := docs.filterMap fun d => (db.encodeForBatch depth d).toOption
    ∃ entries : List Value,
      (envs = [] → s' = s) ∧
      (envs ≠ [] → ∃ p body, db.path [.str "_bulk_docs"] = .ok p ∧
        jsonBody (depth + 3) (.obj [("docs", .list (envs.map .dict))]) = .ok body ∧
        (requestOk (depth + 2) (.str "bulk_docs") .null "POST" p [] body).run.run s =
          (.ok (.list entries), s') ∧
        ∃ req : Request, s'.sent = s.sent ++ [req] ∧ req.method = "POST" ∧ req.body = body) ∧
      entries.length = envs.length ∧ outs.length = docs.length ∧
      ∀ i d, docs[i]? = some d →
        (∀ e, db.encodeForBatch depth d = .error e → ∃ reason, badDocumentReason e = some reason ∧
          outs[i]? = some { id := db.reportedId d, error := .str "bad_document",
                            reason := .str reason }) ∧
        (∀ env, db.encodeForBatch depth d = .ok env →
          let j := (docs.take i).countP fun d => (db.encodeForBatch depth d).isOk
          db.adapter.toEnvelope d = .ok env ∧ envs[j]? = some env ∧
          ∃ entry, entries[j]? = some entry ∧ outs[i]? = some (WriteOutcome.ofEntry entry) ∧
            ((WriteOutcome.ofEntry entry).ok = true ↔ ∃ es, entry = .dict es ∧
              (Value.getD es "error").truthy = false ∧ (Value.getD es "id").truthy = true ∧
              (Value.getD es "rev").truthy = true)) := by
  intro docs envs
  obtain ⟨hreasons, entries, houts, hlen, hnone, hsome⟩ := submit_ok_inv h
  have hfit : (b.places.map fun k => db.placeEntry depth k (b.view k)).countP
      Sum.isRight ≤ entries.length :=
    Nat.le_of_eq ((countP_sent_eq db depth b).trans hlen.symm)
  refine ⟨entries, fun he => (hnone he).1, fun hne => ?_, hlen, ?_, ?_⟩
  · -- the one request: its reply is the list of entries, and it is the only request sent
    obtain ⟨p, body, hp, hbody, hreq⟩ := hsome hne
    obtain ⟨status, hrequest, -⟩ := Session.requestOk_ok hreq
    obtain ⟨req, r, hm, hb, hsent, -⟩ := Session.request_sends_one hrequest
    exact ⟨p, body, hp, hbody, hreq, req, hsent, hm, hb⟩
  · rw [houts, mergeEntries_length _ _ hfit, List.length_map]
    simp [docs, Batch.atPlaces]
  · intro i d hd
    have hdoc := hd
    simp only [docs, Batch.atPlaces, List.getElem?_map] at hd
    obtain ⟨k, hk, hdk⟩ := Option.map_eq_some_iff.mp hd
    have hentry : (b.places.map fun k => db.placeEntry depth k (b.view k))[i]? =
        some (db.placeEntry depth k d) := by
      rw [List.getElem?_map, hk, Option.map_some, hdk]
    constructor
    · intro e he
      obtain ⟨reason, hreason⟩ := Option.isSome_iff_exists.mp
        (hreasons k (List.mem_of_getElem? hk) e (hdk ▸ he))
      refine ⟨reason, hreason, ?_⟩
      rw [houts]
      apply mergeEntries_getElem?_inl _ _ _ _ hfit
      rw [hentry]
      simp only [placeEntry, he, hreason, Option.getD_some]
    · intro env he
      refine ⟨encodeForBatch_envelope he, ?_, ?_⟩
      · -- the envelope is the one of the place among those kept, counted in input order
        have hj : (docs.take i).countP (fun d => (db.encodeForBatch depth d).isOk) =
            (docs.take i).countP (fun d => ((db.encodeForBatch depth d).toOption).isSome) :=
          List.countP_congr fun x _ => by
            cases db.encodeForBatch depth x <;> simp [Except.isOk, Except.toBool, Except.toOption]
        rw [hj]
        exact getElem?_filterMap_countP _ docs i d env hdoc (by simp [he, Except.toOption])
      · have hsent : (b.places.map fun k => db.placeEntry depth k (b.view k))[i]? =
            some (.inr (k, env)) := by
          rw [hentry, placeEntry, he]
        obtain ⟨entry, hat, hout⟩ := mergeEntries_getElem?_inr _ _ _ _ hfit hsent
        rw [countP_placeEntry] at hat
        exact ⟨entry, hat, houts ▸ hout, WriteOutcome.ofEntry_ok_iff entry⟩

/-- A batch with one document set aside and one sent and written. -/
theorem submit_outcomes_mixed_batch :
    let db : Database := ⟨"users", .envelope⟩
    let b : Batch := Batch.ofList [.dict [(.str "_id", .int 1)], .dict [(.str "_id", .str "a")]]
    -- the reply body: one entry, with id `a` and revision `1-x`
    let r : Reply := ⟨201, [.bytes [0x5B, 0x7B, 0x22, 0x69, 0x64, 0x22, 0x3A, 0x22, 0x61, 0x22,
      0x2C, 0x22, 0x72, 0x65, 0x76, 0x22, 0x3A, 0x22, 0x31, 0x2D, 0x78, 0x22, 0x7D, 0x5D]]⟩
    let s : Session := { base := { scheme := "http", host := "couch.test", path := "/" },
                         authorization := none, stem := .str "", script := [.reply r] }
    let res := (db.submit b 1).run.run s
    let outs := (res.1.toOption.map (·.1)).getD []
    let b' := (res.1.toOption.map (·.2)).getD b
    res = (.ok (outs, b'), res.2) ∧
      let docs := b.atPlaces
      let envs := docs.filterMap fun d => (db.encodeForBatch 1 d).toOption
      ∃ entries : List Value,
        (envs = [] → res.2 = s) ∧
        (envs ≠ [] → ∃ p body, db.path [.str "_bulk_docs"] = .ok p ∧
          jsonBody (1 + 3) (.obj [("docs", .list (envs.map .dict))]) = .ok body ∧
          (requestOk (1 + 2) (.str "bulk_docs") .null "POST" p [] body).run.run s =
            (.ok (.list entries), res.2) ∧
          ∃ req : Request, res.2.sent = s.sent ++ [req] ∧ req.method = "POST" ∧
            req.body = body) ∧
        entries.length = envs.length ∧ outs.length = docs.length ∧
        ∀ i d, docs[i]? = some d →
          (∀ e, db.encodeForBatch 1 d = .error e → ∃ reason, badDocumentReason e = some reason ∧
            outs[i]? = some { id := db.reportedId d, error := .str "bad_document",
                              reason := .str reason }) ∧
          (∀ env, db.encodeForBatch 1 d = .ok env →
            let j := (docs.take i).countP fun d => (db.encodeForBatch 1 d).isOk
            db.adapter.toEnvelope d = .ok env ∧ envs[j]? = some env ∧
            ∃ entry, entries[j]? = some entry ∧ outs[i]? = some (WriteOutcome.ofEntry entry) ∧
              ((WriteOutcome.ofEntry entry).ok = true ↔ ∃ es, entry = .dict es ∧
                (Value.getD es "error").truthy = false ∧ (Value.getD es "id").truthy = true ∧
                (Value.getD es "rev").truthy = true)) := by
  intro db b r s res outs b'
  -- the submission returns: checked by evaluating it, then read off as an equation
  have hok : res.1.isOk = true := by decide +kernel
  obtain ⟨⟨o, b''⟩, hrun⟩ := run_eq_ok_of_isOk hok
  have hres : res = (.ok (outs, b'), res.2) := by
    simp only [outs, b']
    rw [hrun]
    rfl
  exact ⟨hres, submit_outcomes_by_place db b 1 s res.2 outs b' hres⟩

end Database

end DocClient
