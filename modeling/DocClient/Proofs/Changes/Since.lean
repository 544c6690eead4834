import DocClient.Changes.Feed
/-!
# The since a feed's request carries

The `since` the server reads from a continuous feed's query is the one its sequence names
(`ChangeFeed.query_since`).
-/
namespace DocClient

/-- The since a request asks for changes after, as the server reads it from the query. -/
def Request.since? (req : Request) : Option String := req.query.lookup "since"

/-- The since a feed at sequence `v` asks the server for. -/
def sinceFor : Value → Option String
  | .null => none
  | v => (Utf8.encodable v.text).toOption

theorem sinceFor_of_ne {v : Value} (h : v = .null → False) :
    sinceFor v = (Utf8.encodable v.text).toOption := by
  cases v with
  | null => exact absurd rfl h
  | _ => rfl

theorem encodePairs_snoc (ps : List (Text × Text)) (k v : Text) :
    encodePairs (ps ++ [(k, v)]) = (do
      let a ← encodePairs ps
      let k' ← Utf8.encodable k
      let v' ← Utf8.encodable v
      pure (a ++ [(k', v')])) := by
  induction ps with
  | nil =>
    simp only [List.nil_append, encodePairs]
    cases Utf8.encodable k <;> cases Utf8.encodable v <;> rfl
  | cons p ps ih =>
    obtain ⟨k₀, v₀⟩ := p
    simp only [List.cons_append, encodePairs, ih]
    cases Utf8.encodable k₀ <;> cases Utf8.encodable v₀ <;> cases encodePairs ps <;>
      cases Utf8.encodable k <;> cases Utf8.encodable v <;> rfl

theorem queryGroups_snoc (ps : List (Value × Value)) (k : Value) (t : Text) :
    queryGroups (ps ++ [(k, .str t)]) = putQueryKey k.text [t] (queryGroups ps) := by
  simp [queryGroups, List.foldl_append, queryText, Value.text]

theorem ungroup_snoc (G : List (Text × List Text)) (k v : Text) :
    ungroup (G ++ [(k, [v])]) = ungroup G ++ [(k, v)] := by
  simp [ungroup]

theorem requestQuery_ok {u qt : Option String} {params : List (Value × Value)}
    {query : List (String × String)} (hne : params ≠ [])
    (h : requestQuery u params = .ok (qt, query)) :
    encodePairs (ungroup (queryGroups params)) = .ok query := by
  unfold requestQuery at h
  have hnil : params.isEmpty = false := by simpa using hne
  rw [hnil, if_neg Bool.false_ne_true] at h
  cases he : encodePairs (ungroup (queryGroups params)) with
  | error u =>
    rw [he] at h
    cases h
  | ok pairs =>
    rw [he] at h
    cases h
    rfl

theorem Value.insert_of_fresh (k v : Value) {es : List (Value × Value)}
    (h : ∀ e ∈ es, Value.keyEq k e.1 = false) : Value.insert k v es = es ++ [(k, v)] := by
  induction es with
  | nil => rfl
  | cons e es ih =>
    rw [Value.insert, if_neg (by simp [h e (by simp)]), List.cons_append,
      ih fun e' he' => h e' (List.mem_cons_of_mem _ he')]

section BaseQuery

/- The fixed parameters `W` of a feed's query encode as pairs `P` without a since; the
concrete `W` are evaluated where these lemmas are used. -/
variable {W : List (Value × Value)} {P : List (String × String)}
  {u qt : Option String} {query : List (String × String)}

theorem lookup_since_base (hne : W ≠ []) (hP : encodePairs (ungroup (queryGroups W)) = .ok P)
    (hPs : P.lookup "since" = none) (h : requestQuery u W = .ok (qt, query)) :
    query.lookup "since" = none := by
  rw [requestQuery_ok hne h] at hP
  cases hP
  exact hPs

theorem lookup_since_snoc {t : Text} (hP : encodePairs (ungroup (queryGroups W)) = .ok P)
    (hPs : P.lookup "since" = none)
    (hput : putQueryKey (Value.str "since").text [t] (queryGroups W) =
      queryGroups W ++ [(("since" : Text), [t])])
    (h : requestQuery u (W ++ [(.str "since", .str t)]) = .ok (qt, query)) :
    query.lookup "since" = (Utf8.encodable t).toOption := by
  have hq := requestQuery_ok (by simp) h
  rw [queryGroups_snoc, hput, ungroup_snoc, encodePairs_snoc, hP] at hq
  have hkey : Utf8.encodable "since" = .ok "since" := rfl
  rw [hkey] at hq
  cases ht : Utf8.encodable t with
  | error e =>
    rw [ht] at hq
    cases hq
  | ok t' =>
    rw [ht] at hq
    simp only [bind, Except.bind, pure, Except.pure, Except.ok.injEq] at hq
    subst hq
    simp [List.lookup_append, hPs, Except.toOption]

end BaseQuery

namespace ChangeFeed

/-- A continuous feed's query carries the since its sequence names. -/
theorem query_since {f : ChangeFeed} (hc : f.spec.mode = .continuous) (hx : f.spec.extra = [])
    {u qt : Option String} {query : List (String × String)}
    (h : requestQuery u f.params = .ok (qt, query)) : query.lookup "since" = sinceFor f.lastSeq := by
  unfold ChangeFeed.params at h
  rw [hx, hc] at h
  simp only [if_true, Value.update, List.foldl_nil] at h
  -- the sequence is added last, as a key the fixed parameters do not have
  split at h
  · rename_i hnull
    rw [hnull]
    by_cases hd : f.spec.includeDocs.truthy = true
    · rw [if_pos hd] at h
      exact lookup_since_base (by simp) rfl rfl h
    · rw [if_neg hd] at h
      exact lookup_since_base (by simp) rfl rfl h
  · rename_i v hv
    rw [sinceFor_of_ne hv]
    by_cases hd : f.spec.includeDocs.truthy = true
    · rw [if_pos hd, Value.insert_of_fresh _ _ (by decide)] at h
      exact lookup_since_snoc rfl rfl rfl h
    · rw [if_neg hd, Value.insert_of_fresh _ _ (by decide)] at h
      exact lookup_since_snoc rfl rfl rfl h

end ChangeFeed

end DocClient
