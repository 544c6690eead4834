import DocClient.Proofs.Database.WriteBack
/-!
# Bulk upserts over the server's current revisions

A bulk upsert looks up the current revisions of its ids in one `_all_docs` request and submits
the documents given them (`bulkUpsert_submits_current_revisions`).
-/
namespace DocClient

namespace Value

theorem keyEq_of_asText {y : Value} {t : Text} (hy : y.asText? = some t) (x : Value) :
    keyEq x y = (x.asText? == some t) := by
  cases y <;> simp only [asText?, reduceCtorEq] at hy
  all_goals cases hy
  all_goals cases x <;> simp [keyEq, scalarEq?, asText?, asInt?]

theorem keyEq_asText_left {x : Value} {t : Text} (hx : x.asText? = some t) (y : Value) :
    keyEq x y = (y.asText? == some t) := by
  cases x <;> simp only [asText?, reduceCtorEq] at hx
  all_goals cases hx
  all_goals cases y <;> simp only [keyEq, scalarEq?, asText?, asInt?]
  all_goals simp only [Option.map_none, Option.getD_none, Option.getD_some, Option.some_beq_some,
    Option.none_beq_some]
  -- what is left compares two texts both ways round
  all_goals exact Bool.beq_comm

theorem lookup_insert_text {k : Value} {t : Text} (hk : k.asText? = some t) (x v : Value) :
    ∀ l : List (Value × Value),
      lookup k (insert x v l) = if x.asText? == some t then some v else lookup k l
  | [] => by
    simp [insert, lookup, keyEq_asText_left hk]
  | (k', w) :: rest => by
    by_cases hx : (x.asText? == some t) = true
    · -- `x` has the text of `k`, so both meet the same entries
      have hxk : ∀ y, keyEq x y = keyEq k y := fun y => by
        rw [keyEq_asText_left hk, keyEq_asText_left (by simpa using hx)]
      by_cases hk' : keyEq k k' = true
      · simp [insert, lookup, hxk, hk', hx]
      · simp only [insert, lookup, hxk, hk', Bool.false_eq_true, if_false, hx, if_true]
        rw [lookup_insert_text hk x v rest, if_pos hx]
    · -- an entry `x` meets has another text than `k`
      have hmeet : keyEq x k' = true → keyEq k k' = false := fun hxk' => by
        cases hk't : k'.asText? == some t
        · rw [keyEq_asText_left hk]
          exact hk't
        · rw [keyEq_of_asText (by simpa using hk't)] at hxk'
          exact absurd hxk' hx
      by_cases hxk' : keyEq x k' = true
      · simp [insert, lookup, hxk', hmeet hxk', hx]
      · simp only [insert, hxk', Bool.false_eq_true, if_false, lookup, hx]
        rw [lookup_insert_text hk x v rest, if_neg hx]

theorem insert_insert_self (t : Text) (v : Value) :
    ∀ l : List (Value × Value), insert (.str t) v (insert (.str t) v l) = insert (.str t) v l
  | [] => by simp [insert]
  | (k', w) :: rest => by
    by_cases hk : keyEq (.str t) k' = true
    · simp [insert, hk]
    · simp [insert, hk, insert_insert_self t v rest]

theorem unhashablePart?_of_asText {x : Value} (h : x.asText?.isSome = true) :
    x.unhashablePart? = none := by
  cases x <;> simp [asText?] at h <;> simp [unhashablePart?]

theorem checkKey_of_asText {x : Value} (h : x.asText?.isSome = true) : x.checkKey = .ok () := by
  simp [checkKey, unhashablePart?_of_asText h]

end Value

namespace Adapter

variable {a : Adapter} {d : Value}

theorem Writable.getId_ok (hw : a.Writable d) : ∃ id, a.getId d = .ok id := by
  obtain ⟨hplain, env, henv⟩ := hw
  cases a with
  | envelope =>
    cases d with
    | dict es => exact ⟨_, rfl⟩
    | _ => cases henv
  | model s₀ =>
    cases d with
    | record s fs i r dd ss =>
      simp only [plainDocument, Bool.and_eq_true, List.isEmpty_iff] at hplain
      obtain ⟨hfit, rfl⟩ := hplain
      exact ⟨i, Record.readMark_plain s fs [] .id i (tableEntry_reserved hfit (by decide))
        (tableEntry_reserved hfit (by decide)) rfl⟩
    | _ => cases henv

theorem setRev_record {s₀ s : Schema} {fs : List (String × Value)} (hfit : fitsFields s.fields fs)
    (i r dd x : Value) : (model s₀).setRev (.record s fs i r dd []) x = .ok (.record s fs i x dd []) := by
  have hset : tableEntry fs "__pydantic_setattr_handlers__" = none :=
    tableEntry_reserved hfit (by decide)
  simp only [setRev, setMark, setMarkIn, setModelMark, Record.assignable, hset]
  rfl

theorem Writable.setRev (hw : a.Writable d) (x : Value) :
    ∃ d', a.setRev d x = .ok d' ∧ a.Writable d' ∧ a.getId d' = a.getId d ∧ a.setRev d' x = .ok d' := by
  obtain ⟨hplain, env, henv⟩ := hw
  cases a with
  | envelope =>
    cases d with
    | dict es =>
      refine ⟨_, rfl, ⟨rfl, _, rfl⟩, ?_, ?_⟩
      · simp only [getId, getMark, Mark.key, Value.getD,
          Value.get?_put_of_ne (by decide : "_id" ≠ "_rev")]
        rfl
      · show Except.ok (Value.dict (Value.put (Value.put es "_rev" x) "_rev" x)) = _
        rw [Value.put, Value.put, Value.insert_insert_self]
        rfl
    | _ => cases henv
  | model s₀ =>
    cases d with
    | record s fs i r dd ss =>
      simp only [plainDocument, Bool.and_eq_true, List.isEmpty_iff] at hplain
      obtain ⟨hfit, rfl⟩ := hplain
      have hmodel : ∀ v, (model s₀).toEnvelope v = (model s).toEnvelope v := fun _ => rfl
      have hid : ∀ i', (model s₀).getId (.record s fs i' x dd []) = (model s₀).getId (.record s fs i' r dd []) :=
        fun i' => rfl
      refine ⟨_, setRev_record hfit i r dd x, ⟨by simp [plainDocument, hfit], _,
        (hmodel _).trans (toEnvelope_record hfit i x dd)⟩, hid i, setRev_record hfit i x dd x⟩
    | _ => cases henv

end Adapter

namespace Database

/-! ### The revision table of a look-up -/

/-- A row that gives a current revision: no error, and a value not marked deleted. -/
def givesRevision (row : List (Value × Value)) : Bool :=
  match Value.getD row "value" with
  | .dict vs => !((Value.getD row "error").truthy || (Value.getD vs "deleted").truthy)
  | _ => false

/-- The revision a row gives: the `rev` of its value. -/
def rowRevision (row : List (Value × Value)) : Value :=
  match Value.getD row "value" with
  | .dict vs => Value.getD vs "rev"
  | _ => .null

/-- Whether the value of a row is an object holding a `rev`. -/
def hasRev (row : List (Value × Value)) : Bool :=
  match Value.getD row "value" with
  | .dict vs => (Value.get? vs "rev").isSome
  | _ => false

/-- A revision row with a `rev` in its value and a hashable `id`. -/
def rowComplete (row : List (Value × Value)) : Bool :=
  !givesRevision row || hasRev row &&
    (match Value.get? row "id" with
      | some x => x.unhashablePart?.isNone
      | none => false)

theorem rowComplete_of_text_id {row : List (Value × Value)}
    (h : (!givesRevision row || hasRev row && ((Value.get? row "id").bind Value.asText?).isSome) =
      true) :
    rowComplete row = true := by
  rcases hx : Value.get? row "id" with _ | x
  · simpa [rowComplete, hx] using h
  · rw [hx, Option.bind_some] at h
    rw [rowComplete, hx]
    cases hg : givesRevision row
    · rfl
    · simp only [hg, Bool.not_true, Bool.false_or, Bool.and_eq_true] at h ⊢
      exact ⟨h.1, by simp [Value.unhashablePart?_of_asText h.2]⟩

/-- The revision table the rows make, row by row. -/
def revisionTable (rows : List (List (Value × Value))) : List (Value × Value) :=
  rows.foldl (fun revs row =>
    if givesRevision row then Value.insert (Value.getD row "id") (rowRevision row) revs else revs) []

/-- The latest revision the rows give the text id `t`. -/
def latestRevision (rows : List (List (Value × Value))) (t : Text) : Option Value :=
  rows.foldl (fun o row =>
    if givesRevision row && (Value.getD row "id").asText? == some t then some (rowRevision row)
    else o) none

theorem lookup_revisionTable {k : Value} {t : Text} (hk : k.asText? = some t)
    (rows : List (List (Value × Value))) :
    Value.lookup k (revisionTable rows) = latestRevision rows t := by
  -- the table and the latest revision are built along the same rows
  suffices h : ∀ (revs : List (Value × Value)) (o : Option Value), Value.lookup k revs = o →
      Value.lookup k (rows.foldl (fun revs row => if givesRevision row then
        Value.insert (Value.getD row "id") (rowRevision row) revs else revs) revs) =
      rows.foldl (fun o row => if givesRevision row && (Value.getD row "id").asText? == some t
        then some (rowRevision row) else o) o from h [] none rfl
  induction rows with
  | nil => exact fun _ _ h => h
  | cons row rows ih =>
    intro revs o h
    refine ih _ _ ?_
    by_cases hg : givesRevision row = true
    · simp only [hg, if_true, Bool.true_and, Value.lookup_insert_text hk, h]
    · simp [hg, h]

/-! ### The look-up -/

theorem currentRevisions_nil (db : Database) (depth : Nat) (s : Session) :
    (db.currentRevisions [] depth).run.run s = (.ok [], s) := rfl

theorem currentRevisions_answered {db : Database} {ids : List Value} {p : String}
    {body : RequestBody} {reply : Value} {rows : List (List (Value × Value))} {s t : Session}
    (hne : ids.isEmpty = false) (hp : db.path [.str "_all_docs"] = .ok p)
    (hbody : jsonBody (3 + 2) (.obj [("keys", .list ids)]) = .ok body)
    (hreq : (requestOk 4 (.str "bulk_upsert") .null "POST" p [] body).run.run s = (.ok reply, t))
    (hrows : replyRows "bulk_upsert" reply = .ok rows) (hcomplete : rows.all rowComplete = true) :
    (db.currentRevisions ids 3).run.run s = (.ok (revisionTable rows), t) := by
  unfold currentRevisions
  simp only [hne, Bool.false_eq_true, ↓reduceIte]
  rw [run_bind_of_ok (a := p) (t := s) (by rw [Call.run_lift, hp]),
    run_bind_of_ok (a := body) (t := s) (by rw [Call.run_lift, hbody]), run_bind_of_ok hreq,
    run_bind_of_ok (a := rows) (t := t) (by rw [Call.run_lift, hrows])]
  refine foldlM_run_of_ok (fun revs row u hrow => ?_) [] t
  have hc : rowComplete row = true := List.all_eq_true.mp hcomplete row hrow
  -- one row: skipped unless it gives a revision, and then it has a `rev` and a hashable `id`
  split
  · rename_i vs hv
    have hgives : givesRevision row =
        !((Value.getD row "error").truthy || (Value.getD vs "deleted").truthy) := by
      simp only [givesRevision, hv]
    by_cases hskip : ((Value.getD row "error").truthy || (Value.getD vs "deleted").truthy) = true
    · rw [if_pos hskip, hgives, hskip]
      rfl
    · have hg : givesRevision row = true := by
        rw [hgives]
        simpa using hskip
      simp only [rowComplete, hasRev, hg, hv, Bool.not_true, Bool.false_or, Bool.and_eq_true] at hc
      obtain ⟨hrev, hid⟩ := hc
      obtain ⟨rev, hrev⟩ := Option.isSome_iff_exists.mp hrev
      rcases hx : Value.get? row "id" with _ | x
      · rw [hx] at hid
        cases hid
      rw [hx] at hid
      have hkey : x.checkKey = .ok () := by
        simp [Value.checkKey, Option.isNone_iff_eq_none.mp hid]
      have hidD : Value.getD row "id" = x := by simp [Value.getD, hx]
      have hrevD : rowRevision row = rev := by
        rw [rowRevision, hv]
        simp [Value.getD, hrev]
      rw [if_neg hskip, if_pos hg, hidD, hrevD]
      simp only [hrev, pure_bind, hkey]
      rfl
  · rename_i hv
    have hg : givesRevision row = false := by
      unfold givesRevision
      split
      · rename_i vs hvs
        exact absurd hvs (hv vs)
      · rfl
    simp only [hg, Bool.false_eq_true, if_false]
    rfl

/-! ### Giving documents their revisions -/

/-- A document the upsert can give a revision. -/
def Upsertable (a : Adapter) (d : Value) : Prop :=
  a.Writable d ∧ ∀ id, a.getId d = .ok id → id.truthy = true → ∃ t, id.asText? = some t

/-- `d'` is `d` given its current revision from `R`, if `R` holds one for its id. -/
def Revised (a : Adapter) (R : Text → Option Value) (d d' : Value) : Prop :=
  ∃ id, a.getId d = .ok id ∧
    ((∃ t rev, id.truthy = true ∧ id.asText? = some t ∧ R t = some rev ∧ a.setRev d rev = .ok d') ∨
      ((id.truthy = false ∨ ∃ t, id.asText? = some t ∧ R t = none) ∧ d' = d))

/-- Batch `c` is `b` with the documents at the places `done` given their revisions from `R`. -/
structure RevisedAt (a : Adapter) (R : Text → Option Value) (b c : Batch) (done : List Nat) :
    Prop where
  places : c.places = b.places
  holds : c.holds = b.holds
  length : c.documents.length = b.documents.length
  revised : ∀ k d, b.documents[k]? = some d → ∃ d', c.documents[k]? = some d' ∧
    (k ∈ done → Revised a R d d') ∧ (k ∉ done → d' = d)

section Revised

variable {a : Adapter} {R : Text → Option Value} {d d' : Value}

theorem Revised.unique {d₁ d₂ : Value} (h₁ : Revised a R d d₁) (h₂ : Revised a R d d₂) :
    d₁ = d₂ := by
  obtain ⟨id, hid, h₁⟩ := h₁
  obtain ⟨id', hid', h₂⟩ := h₂
  rw [hid] at hid'
  cases hid'
  -- a revision set and a document kept as it was cannot both follow from one id
  have hboth : ∀ t rev, id.truthy = true → id.asText? = some t → R t = some rev →
      ¬ (id.truthy = false ∨ ∃ t, id.asText? = some t ∧ R t = none) := by
    rintro t rev htruthy ht hR (hfalse | ⟨t', ht', hnone⟩)
    · rw [htruthy] at hfalse
      cases hfalse
    · rw [ht] at ht'
      cases ht'
      rw [hR] at hnone
      cases hnone
  rcases h₁ with ⟨t, rev, htruthy, ht, hR, hset⟩ | ⟨hkeep₁, rfl⟩ <;>
    rcases h₂ with ⟨t', rev', htruthy', ht', hR', hset'⟩ | ⟨hkeep₂, rfl⟩
  · rw [ht] at ht'
    cases ht'
    rw [hR] at hR'
    cases hR'
    rw [hset] at hset'
    exact Except.ok.inj hset'
  · exact absurd hkeep₂ (hboth t rev htruthy ht hR)
  · exact absurd hkeep₁ (hboth t' rev' htruthy' ht' hR')
  · rfl

theorem Revised.upsertable (hd : Upsertable a d) (h : Revised a R d d') : Upsertable a d' := by
  obtain ⟨id, hid, ⟨t, rev, -, -, -, hset⟩ | ⟨-, rfl⟩⟩ := h
  · obtain ⟨d₁, hset₁, hw₁, hid₁, -⟩ := Adapter.Writable.setRev hd.1 rev
    rw [hset] at hset₁
    cases hset₁
    exact ⟨hw₁, fun id' h => hd.2 id' (hid₁ ▸ h)⟩
  · exact hd

theorem Revised.fix (hd : Upsertable a d) (h : Revised a R d d') : Revised a R d' d' := by
  obtain ⟨id, hid, ⟨t, rev, htruthy, ht, hR, hset⟩ | ⟨hkeep, rfl⟩⟩ := h
  · obtain ⟨d₁, hset₁, -, hid₁, hagain⟩ := Adapter.Writable.setRev hd.1 rev
    rw [hset] at hset₁
    cases hset₁
    exact ⟨id, hid₁.trans hid, .inl ⟨t, rev, htruthy, ht, hR, hagain⟩⟩
  · exact ⟨id, hid, .inr ⟨hkeep, rfl⟩⟩

theorem Revised.eq_of_none (hR : ∀ t, R t = none) (h : Revised a R d d') : d' = d := by
  obtain ⟨id, -, ⟨t, rev, -, -, hRt, -⟩ | ⟨-, rfl⟩⟩ := h
  · rw [hR t] at hRt
    cases hRt
  · rfl

end Revised

theorem Batch.setDocument_getD_self {c : Batch} {k : Nat}
    (h : c.documents[k]? = some (c.documents.getD k .null)) :
    c.setDocument k (c.documents.getD k .null) = c := by
  have hk : k < c.documents.length := by
    rcases Nat.lt_or_ge k c.documents.length with hk | hk
    · exact hk
    · rw [List.getElem?_eq_none hk] at h
      cases h
  cases c
  simp only [Batch.setDocument, List.getD_eq_getElem?_getD, List.getElem?_eq_getElem hk,
    Option.getD_some, List.set_getElem_self]

theorem takeRevisions_cons {db : Database} {revs : List (Value × Value)} {R : Text → Option Value}
    (hR : ∀ x t, x.asText? = some t → Value.lookup x revs = R t) {c : Batch} {k : Nat}
    (rest : List Nat) (hd : Upsertable db.adapter (c.documents.getD k .null)) :
    ∃ d', Revised db.adapter R (c.documents.getD k .null) d' ∧
      bulkUpsert.takeRevisions db revs (k :: rest) c =
        bulkUpsert.takeRevisions db revs rest (c.setDocument k d') := by
  obtain ⟨hw, htext⟩ := hd
  obtain ⟨id, hid⟩ := Adapter.Writable.getId_ok hw
  have hself := Batch.setDocument_getD_self (getElem?_of_writable hw)
  rw [bulkUpsert.takeRevisions]
  rw [hid]
  simp only
  by_cases htruthy : id.truthy = true
  · obtain ⟨t, ht⟩ := htext id hid htruthy
    -- a text id is a key, and the table holds its latest revision
    have hkey : id.checkKey = .ok () := Value.checkKey_of_asText (by simp [ht])
    rw [if_pos htruthy, hkey]
    simp only
    rw [hR id t ht]
    cases hRt : R t with
    | none =>
      refine ⟨_, ⟨id, hid, .inr ⟨.inr ⟨t, ht, hRt⟩, rfl⟩⟩, ?_⟩
      rw [hself]
    | some rev =>
      obtain ⟨d', hset, -⟩ := Adapter.Writable.setRev hw rev
      refine ⟨d', ⟨id, hid, .inl ⟨t, rev, htruthy, ht, hRt, hset⟩⟩, ?_⟩
      simp only [hset]
  · rw [if_neg htruthy]
    refine ⟨_, ⟨id, hid, .inr ⟨.inl (by simpa using htruthy), rfl⟩⟩, ?_⟩
    rw [hself]

namespace RevisedAt

variable {a : Adapter} {R : Text → Option Value} {b c : Batch} {done : List Nat}

theorem start (a : Adapter) (R : Text → Option Value) (b : Batch) : RevisedAt a R b b [] :=
  ⟨rfl, rfl, rfl, fun _ d h => ⟨d, h, fun hk => (by cases hk), fun _ => rfl⟩⟩

theorem setDocument {k : Nat} {d₀ dc d' : Value} (h : RevisedAt a R b c done)
    (hd₀ : Upsertable a d₀) (hb : b.documents[k]? = some d₀) (hc : c.documents[k]? = some dc)
    (hdc : Revised a R dc d') : RevisedAt a R b (c.setDocument k d') (done ++ [k]) := by
  obtain ⟨dc', hc', hdone, hfresh⟩ := h.revised k d₀ hb
  rw [hc] at hc'
  cases hc'
  -- the document there was given its revision now, or already and then it stays
  have hnow : Revised a R d₀ d' := by
    by_cases hk : k ∈ done
    · have hprev := hdone hk
      rw [Revised.unique hdc (hprev.fix hd₀)]
      exact hprev
    · rw [← hfresh hk]
      exact hdc
  have hlt : k < c.documents.length := (List.getElem?_eq_some_iff.mp hc).1
  refine ⟨h.places, h.holds, by simp [Batch.setDocument, h.length], fun k' d hk' => ?_⟩
  by_cases hkk : k' = k
  · subst hkk
    rw [hb] at hk'
    cases hk'
    refine ⟨d', ?_, fun _ => hnow, fun hn => absurd (List.mem_append_right _ (List.mem_singleton_self _)) hn⟩
    simp [Batch.setDocument, List.getElem?_set_self hlt]
  · obtain ⟨d'', hc'', hdone', hfresh'⟩ := h.revised k' d hk'
    have hmem : k' ∈ done ++ [k] ↔ k' ∈ done := by simp [hkk]
    refine ⟨d'', ?_, fun hm => hdone' (hmem.mp hm), fun hm => hfresh' (fun h' => hm (hmem.mpr h'))⟩
    simp [Batch.setDocument, List.getElem?_set_ne (Ne.symm hkk), hc'']

theorem eq_of_none (h : RevisedAt a R b c done) (hR : ∀ t, R t = none) : c = b := by
  have hdocs : c.documents = b.documents := by
    apply List.ext_getElem?
    intro k
    cases hb : b.documents[k]? with
    | none =>
      rw [List.getElem?_eq_none_iff, h.length]
      exact List.getElem?_eq_none_iff.mp hb
    | some d =>
      obtain ⟨d', hc, hdone, hfresh⟩ := h.revised k d hb
      rw [hc]
      by_cases hk : k ∈ done
      · rw [Revised.eq_of_none hR (hdone hk)]
      · rw [hfresh hk]
  cases b
  cases c
  simp only at hdocs
  simp only [hdocs, Batch.mk.injEq, true_and]
  exact ⟨h.places, h.holds⟩

end RevisedAt

theorem takeRevisions_walk {db : Database} {revs : List (Value × Value)} {R : Text → Option Value}
    (hR : ∀ x t, x.asText? = some t → Value.lookup x revs = R t) {b : Batch}
    (hdocs : ∀ k ∈ b.places, Upsertable db.adapter (b.documents.getD k .null)) :
    ∀ (ps done : List Nat) (c : Batch), (∀ k ∈ ps, k ∈ b.places) → RevisedAt db.adapter R b c done →
      ∃ c', bulkUpsert.takeRevisions db revs ps c = .ok c' ∧
        RevisedAt db.adapter R b c' (done ++ ps)
  | [], done, c, _, hc => ⟨c, rfl, by simpa using hc⟩
  | k :: rest, done, c, hps, hc => by
    -- the document at the place, as the batch held it and as it stands now
    have hd₀ : Upsertable db.adapter (b.documents.getD k .null) :=
      hdocs k (hps k List.mem_cons_self)
    have hb : b.documents[k]? = some (b.documents.getD k .null) := getElem?_of_writable hd₀.1
    obtain ⟨dc, hdc, hdone, hfresh⟩ := hc.revised k _ hb
    have hdcU : Upsertable db.adapter dc := by
      by_cases hk : k ∈ done
      · exact (hdone hk).upsertable hd₀
      · rw [hfresh hk]
        exact hd₀
    have hget : c.documents.getD k .null = dc := by simp [List.getD_eq_getElem?_getD, hdc]
    obtain ⟨d', hrev, hstep⟩ := takeRevisions_cons hR rest (hget ▸ hdcU)
    rw [hget] at hrev
    obtain ⟨c', hrun, hc'⟩ := takeRevisions_walk hR hdocs rest (done ++ [k]) _
      (fun k' hk' => hps k' (List.mem_cons_of_mem _ hk')) (hc.setDocument hd₀ hb hdc hrev)
    exact ⟨c', hstep.trans hrun, by simpa using hc'⟩

/-! ### The upsert -/

theorem mapM_getId_run {db : Database} {b : Batch}
    {F : Value → ExceptT (Error × Batch) (StateM Session) Value}
    (hF : ∀ d u, (F d).run.run u = ((db.adapter.getId d).mapError (·, b), u))
    (hids : ∀ d ∈ b.atPlaces, ∃ id, db.adapter.getId d = .ok id) (s : Session) :
    (b.atPlaces.mapM F).run.run s = (.ok (b.atPlaces.filterMap fun d => (db.adapter.getId d).toOption), s) := by
  rw [mapM_run_of_pure F _ hF, mapM_mapError_ok hids]

theorem bulkUpsert_of_lookup {db : Database} {b : Batch} {s t : Session}
    {revs : List (Value × Value)} {R : Text → Option Value}
    (hdocs : ∀ k ∈ b.places, Upsertable db.adapter (b.documents.getD k .null))
    (hR : ∀ x t, x.asText? = some t → Value.lookup x revs = R t)
    (hlook : (db.currentRevisions
      ((b.atPlaces.filterMap fun d => (db.adapter.getId d).toOption).filter (·.truthy)) 3).run.run s =
        (.ok revs, t)) :
    ∃ b', RevisedAt db.adapter R b b' b.places ∧
      (db.bulkUpsert b).run.run s = (db.submit b' 2).run.run t := by
  obtain ⟨b', htake, hb'⟩ := takeRevisions_walk hR hdocs b.places [] b (fun _ h => h)
    (RevisedAt.start _ R b)
  refine ⟨b', by simpa using hb', ?_⟩
  unfold bulkUpsert
  -- the ids are read without touching the session, then the look-up runs, then the walk
  have hids : ∀ d ∈ b.atPlaces, ∃ id, db.adapter.getId d = .ok id := by
    -- a document is seen with its own marks
    intro d hd
    obtain ⟨k, hk, rfl⟩ := List.mem_map.mp hd
    rw [Batch.getId_view]
    exact Adapter.Writable.getId_ok (hdocs k hk).1
  rw [run_bind_of_ok (mapM_getId_run (fun d u => by split <;> rename_i heq <;> rw [heq] <;> rfl) hids s)]
  simp only
  rw [run_bind_of_ok (submit_lift_of_ok hlook), htake]
  rfl

/-- A bulk upsert looks up the ids and submits the documents given their current revisions. -/
theorem bulkUpsert_submits_current_revisions (db : Database) (b : Batch) (s : Session)
    (hdocs : ∀ k ∈ b.places, Upsertable db.adapter (b.documents.getD k .null)) :
    let ids := (b.atPlaces.filterMap fun d => (db.adapter.getId d).toOption).filter (·.truthy)
    (ids.isEmpty = true → (db.bulkUpsert b).run.run s = (db.submit b 2).run.run s) ∧
    ∀ p body reply t rows, ids.isEmpty = false → db.path [.str "_all_docs"] = .ok p →
      jsonBody (3 + 2) (.obj [("keys", .list ids)]) = .ok body →
      (requestOk 4 (.str "bulk_upsert") .null "POST" p [] body).run.run s = (.ok reply, t) →
      replyRows "bulk_upsert" reply = .ok rows → rows.all rowComplete = true →
      ∃ b', RevisedAt db.adapter (latestRevision rows) b b' b.places ∧
        (db.bulkUpsert b).run.run s = (db.submit b' 2).run.run t := by
  intro ids
  constructor
  · intro hnil
    have hlook : (db.currentRevisions ids 3).run.run s = (.ok [], s) := by
      rw [List.isEmpty_iff.mp hnil]
      exact currentRevisions_nil db 3 s
    obtain ⟨b', hb', hrun⟩ := bulkUpsert_of_lookup (R := fun _ => none) hdocs (fun _ _ _ => rfl) hlook
    rw [hrun, hb'.eq_of_none fun _ => rfl]
  · intro p body reply t rows hne hp hbody hreq hrows hcomplete
    exact bulkUpsert_of_lookup hdocs (fun x t' hx => lookup_revisionTable hx rows)
      (currentRevisions_answered hne hp hbody hreq hrows hcomplete)

/-- Two documents: one whose text id the server holds a revision for, and one without an id. -/
theorem bulkUpsert_submits_current_revisions_known_id :
    let db : Database := ⟨"users", .envelope⟩
    let b := Batch.ofList [.dict [(.str "_id", .str "a")], .dict [(.str "name", .str "x")]]
    let found : Reply := ⟨200, [.bytes (String.toUTF8
      "\x7b\"rows\":[\x7b\"id\":\"a\",\"key\":\"a\",\"value\":\x7b\"rev\":\"1-a\"\x7d\x7d]\x7d").toList]⟩
    let s : Session := { base := { scheme := "http", host := "couch.test", path := "/" },
                         authorization := none, stem := .str "", script := [.reply found] }
    let ids := (b.atPlaces.filterMap fun d => (db.adapter.getId d).toOption).filter (·.truthy)
    let p := (db.path [.str "_all_docs"]).toOption.getD ""
    let body := (jsonBody (3 + 2) (.obj [("keys", .list ids)])).toOption.getD .none
    let res := (requestOk 4 (.str "bulk_upsert") .null "POST" p [] body).run.run s
    let reply := res.1.toOption.getD .null
    let rows := (replyRows "bulk_upsert" reply).toOption.getD []
    (∀ k ∈ b.places, Upsertable db.adapter (b.documents.getD k .null)) ∧ ids.isEmpty = false ∧
      db.path [.str "_all_docs"] = .ok p ∧ jsonBody (3 + 2) (.obj [("keys", .list ids)]) = .ok body ∧
      res = (.ok reply, res.2) ∧ replyRows "bulk_upsert" reply = .ok rows ∧
      rows.all rowComplete = true ∧
      ∃ b', RevisedAt db.adapter (latestRevision rows) b b' b.places ∧
        (db.bulkUpsert b).run.run s = (db.submit b' 2).run.run res.2 := by
  intro db b found s ids p body res reply rows
  have hdocs : ∀ k ∈ b.places, Upsertable db.adapter (b.documents.getD k .null) := by
    intro k hk
    have hk' : k = 0 ∨ k = 1 := by
      simp only [b, Batch.ofList, List.length_cons, List.length_nil, List.mem_range] at hk
      omega
    rcases hk' with rfl | rfl
    · refine ⟨⟨rfl, _, rfl⟩, fun id h _ => ⟨Text.ofString "a", ?_⟩⟩
      rw [← Except.ok.inj h]
      decide +kernel
    · refine ⟨⟨rfl, _, rfl⟩, fun id h ht => ?_⟩
      rw [← Except.ok.inj h] at ht
      exact absurd ht (by decide +kernel)
  have hne : ids.isEmpty = false := by decide +kernel
  have hp : db.path [.str "_all_docs"] = .ok p := Except.eq_ok_getD (by decide +kernel) _
  have hbody : jsonBody (3 + 2) (.obj [("keys", .list ids)]) = .ok body :=
    Except.eq_ok_getD (by decide +kernel) _
  have hres : res = (.ok reply, res.2) := run_eq_ok_getD (r := res) (by decide +kernel) .null
  have hrows : replyRows "bulk_upsert" reply = .ok rows := Except.eq_ok_getD (by decide +kernel) _
  -- the row's id is a text, and a text is hashable
  have htext : rows.all (fun row => !givesRevision row ||
      hasRev row && ((Value.get? row "id").bind Value.asText?).isSome) = true := by decide +kernel
  have hcomplete : rows.all rowComplete = true := List.all_eq_true.mpr fun row hrow =>
    rowComplete_of_text_id (List.all_eq_true.mp htext row hrow)
  exact ⟨hdocs, hne, hp, hbody, hres, hrows, hcomplete,
    (bulkUpsert_submits_current_revisions db b s hdocs).2 p body reply res.2 rows hne hp hbody hres
      hrows hcomplete⟩

/-- The class of the failure a bulk write raised, when it raised one. -/
def raisedClass {α : Type} : Except (Error × Batch) α → Option String
  | .error (e, _) => some e.className
  | .ok _ => none

/-- A revision row with no `rev` fails the upsert with a key error before anything is written. -/
theorem row_without_rev_fails_upsert :
    let db : Database := ⟨"users", .envelope⟩
    let b := Batch.ofList [.dict [(.str "_id", .str "a")]]
    let found : Reply := ⟨200, [.bytes (String.toUTF8
      "\x7b\"rows\":[\x7b\"key\":\"a\",\"id\":\"a\",\"value\":\x7b\x7d\x7d]\x7d").toList]⟩
    let created : Reply := ⟨201, [.bytes (String.toUTF8
      "[\x7b\"ok\":true,\"id\":\"a\",\"rev\":\"1-a\"\x7d]").toList]⟩
    let s : Session := { base := { scheme := "http", host := "couch.test", path := "/" },
                         authorization := none, stem := .str "", script := [.reply found, .reply created] }
    raisedClass ((db.bulkUpsert b).run.run s).1 = some "KeyError" ∧
      raisedClass ((db.submit b).run.run { s with script := [.reply created] }).1 = none := by
  intro db b found created s
  constructor <;> decide +kernel

end Database

end DocClient
