import DocClient.Query.Find
/-!
# Writing a find request and reading it back

Every request the builders make reads back from its body as itself, except that an index held
as a list reads back as a tuple (`ofBody_toBody`).
-/
namespace DocClient

namespace Text

theorem ofString_beq (a b : String) : (ofString a == ofString b) = (a == b) := by
  rw [Bool.eq_iff_iff, beq_iff_eq, beq_iff_eq, ofString, ofString, Text.mk.injEq,
    List.map_inj_right (fun _ _ h => Point.char.inj h), String.toList_inj]

end Text

namespace Value

@[simp] theorem scalarEq?_str (s t : Text) : scalarEq? (.str s) (.str t) = some (s == t) := rfl

@[simp] theorem keyEq_str (s t : Text) : keyEq (.str s) (.str t) = (s == t) := by
  simp [keyEq]

@[simp] theorem eq_str (s t : Text) : Value.eq (.str s) (.str t) = (s == t) := by
  simp [Value.eq]

theorem lookup_append (k : Value) (l₁ l₂ : List (Value × Value)) :
    lookup k (l₁ ++ l₂) = (lookup k l₁).or (lookup k l₂) := by
  induction l₁ with
  | nil => rfl
  | cons e l₁ ih =>
    simp only [List.cons_append, lookup]
    split <;> simp [ih]

end Value

section Except

variable {α β ε : Type}

theorem mapM_ok_mem {f : α → Except ε β} : ∀ {xs : List α} {ys : List β},
    xs.mapM f = .ok ys → ∀ y ∈ ys, ∃ x ∈ xs, f x = .ok y
  | [], ys, h => by
    cases h
    simp
  | x :: xs, ys, h => by
    rw [List.mapM_cons] at h
    rcases hx : f x with e | y₀
    · rw [hx] at h
      cases h
    · rcases hxs : xs.mapM f with e | ys₀
      · rw [hx, hxs] at h
        cases h
      · rw [hx, hxs] at h
        cases h
        intro y hy
        rcases List.mem_cons.mp hy with rfl | hy
        · exact ⟨x, List.mem_cons_self .., hx⟩
        · obtain ⟨x', hx', hf⟩ := mapM_ok_mem hxs y hy
          exact ⟨x', List.mem_cons_of_mem _ hx', hf⟩

theorem mapM_of_fixed {f : α → Except ε α} :
    ∀ {xs : List α}, (∀ x ∈ xs, f x = .ok x) → xs.mapM f = .ok xs
  | [], _ => rfl
  | x :: xs, h => by
    rw [List.mapM_cons, h x (List.mem_cons_self ..),
      mapM_of_fixed fun y hy => h y (List.mem_cons_of_mem _ hy)]
    rfl

end Except

namespace FindRequest

/-- The requests the builders make. -/
inductive Built : FindRequest → Prop
  | empty : Built {}
  | all : Built all
  | ofBody {body : Value} {q : FindRequest} : ofBody body = .ok q → Built q
  | withSelector {q q' : FindRequest} {sel : Value} : Built q → q.withSelector sel = .ok q' →
      Built q'
  | withSort {q q' : FindRequest} {sort : Value} : Built q → q.withSort sort = .ok q' → Built q'
  | withLimit {q q' : FindRequest} {n : Value} : Built q → q.withLimit n = .ok q' → Built q'
  | withSkip {q q' : FindRequest} {n : Value} : Built q → q.withSkip n = .ok q' → Built q'
  | withFields {q q' : FindRequest} {fs : Value} : Built q → q.withFields fs = .ok q' → Built q'
  | withIndex {q : FindRequest} (design name : Value) : Built q → Built (q.withIndex design name)
  | withBookmark {q : FindRequest} (b : Value) : Built q → Built (q.withBookmark b)

/-- What every request the builders make holds. -/
structure Stored (q : FindRequest) : Prop where
  sort : ∃ es, q.sort = .tuple es ∧ ∀ e ∈ es, sortEntry e = .ok e
  fields : q.fields = .null ∨ ∃ xs, q.fields = .tuple xs

theorem direction_ok {d e : Value} (h : direction d = .ok e) : direction e = .ok e := by
  unfold direction at h
  split at h
  · cases h
    simp [direction]
  · split at h
    · cases h
      simp [direction, Text.ofString_beq]
    · cases h

theorem sortPair_ok {name dir y : Value}
    (h : (do let d ← direction dir; Value.checkKey name; pure (Value.dict [(name, d)]) :
      Except Error Value) = .ok y) :
    ∃ d, direction d = .ok d ∧ Value.checkKey name = .ok () ∧ y = .dict [(name, d)] := by
  rcases hd : direction dir with e | d
  · rw [hd] at h
    cases h
  · rw [hd] at h
    rcases hk : Value.checkKey name with e | ⟨⟩
    · rw [hk] at h
      cases h
    · rw [hk] at h
      cases h
      exact ⟨d, direction_ok hd, rfl, rfl⟩

theorem sortEntry_ok {x y : Value} (h : sortEntry x = .ok y) :
    (y = x ∧ sortEntry x = .ok x) ∨
      ∃ name d, direction d = .ok d ∧ Value.checkKey name = .ok () ∧ y = .dict [(name, d)] := by
  unfold sortEntry at h
  split at h
  · cases h
    exact .inl ⟨rfl, rfl⟩
  · cases h
    exact .inl ⟨rfl, rfl⟩
  · obtain ⟨d, hd, hk, rfl⟩ := sortPair_ok h
    exact .inr ⟨_, d, hd, hk, rfl⟩
  · obtain ⟨d, hd, hk, rfl⟩ := sortPair_ok h
    exact .inr ⟨_, d, hd, hk, rfl⟩
  · cases h

theorem sortEntry_stored {x y : Value} (h : sortEntry x = .ok y) : sortEntry y = .ok y := by
  rcases sortEntry_ok h with ⟨rfl, hx⟩ | ⟨name, d, hd, hk, rfl⟩
  · exact hx
  · simp only [sortEntry, hd, hk]
    rfl

theorem sortEntries_stored {v w : Value} (h : sortEntries v = .ok w) :
    ∃ es, w = .tuple es ∧ ∀ e ∈ es, sortEntry e = .ok e := by
  unfold sortEntries at h
  rcases hx : v.items with e | xs
  · rw [hx] at h
    cases h
  · rw [hx] at h
    simp only [bind, Except.bind] at h
    rcases hm : xs.mapM sortEntry with e | es
    · rw [hm] at h
      cases h
    · rw [hm] at h
      cases h
      refine ⟨es, rfl, fun e he => ?_⟩
      obtain ⟨x, -, hxe⟩ := mapM_ok_mem hm e he
      exact sortEntry_stored hxe

theorem tupleOrNull_ok {v w : Value} (h : tupleOrNull v = .ok w) :
    w = .null ∨ ∃ xs, w = .tuple xs := by
  unfold tupleOrNull at h
  split at h
  · cases h
    exact .inl rfl
  · rcases hx : v.items with e | xs
    · rw [hx] at h
      cases h
    · rw [hx] at h
      cases h
      exact .inr ⟨xs, rfl⟩

theorem withLimit_ok {q q' : FindRequest} {n : Value} (h : q.withLimit n = .ok q') :
    q' = { q with limit := n } := by
  unfold withLimit at h
  split at h
  · cases h
    rfl
  · simp only [bind, Except.bind] at h
    rcases hneg : n.isNegative with e | v
    · rw [hneg] at h
      cases h
    · rw [hneg] at h
      cases v
      · cases h
        rfl
      · cases h

theorem withSkip_ok {q q' : FindRequest} {n : Value} (h : q.withSkip n = .ok q') :
    q' = { q with skip := n } := by
  unfold withSkip at h
  split at h
  · cases h
    rfl
  · simp only [bind, Except.bind] at h
    rcases hneg : n.isNegative with e | v
    · rw [hneg] at h
      cases h
    · rw [hneg] at h
      cases v
      · cases h
        rfl
      · cases h

theorem ofBody_stored {body : Value} {q : FindRequest} (h : ofBody body = .ok q) : Stored q := by
  unfold ofBody at h
  split at h
  · simp only [bind, Except.bind] at h
    split at h
    · cases h
    · rename_i sort hsort
      split at h
      · cases h
      · rename_i fields hfields
        cases h
        exact ⟨sortEntries_stored hsort, tupleOrNull_ok hfields⟩
  · cases h


section Written

/-- The key a body gives a name. -/
abbrev key (k : String) : Value := .str (Text.ofString k)

/-- The entries of a body, names written as text keys. -/
abbrev written (l : List (String × Value)) : List (Value × Value) :=
  l.map fun e => (.str (Text.ofString e.1), e.2)

theorem lookup_written_append (k : Value) (l₁ l₂ : List (String × Value)) :
    Value.lookup k (written (l₁ ++ l₂)) = (Value.lookup k (written l₁)).or (Value.lookup k (written l₂)) := by
  rw [written, List.map_append, Value.lookup_append]

theorem lookup_written_single {k k' : String} (v : Value) :
    Value.lookup (key k) (written [(k', v)]) = if k = k' then some v else none := by
  simp [Value.lookup, Text.ofString_beq]

@[simp] theorem lookup_written_nil (k : Value) : Value.lookup k (written []) = none := rfl

theorem lookup_optionEntry_of_ne {k k' : String} (h : k ≠ k') (v : Value) :
    Value.lookup (key k) (written (optionEntry k' v)) = none := by
  unfold optionEntry
  split <;> simp [Value.lookup, Text.ofString_beq, h]

theorem getD_lookup_optionEntry (k : String) (v : Value) :
    (Value.lookup (key k) (written (optionEntry k v))).getD .null = v := by
  unfold optionEntry
  split <;> simp [Value.lookup]

theorem lookup_indexEntry_of_ne {k : String} (h : k ≠ "use_index") (v : Value) :
    Value.lookup (key k) (written (indexEntry v)) = none := by
  unfold indexEntry
  split <;> simp [Value.lookup, Text.ofString_beq, h]

theorem indexOf_lookup_indexEntry (v : Value) :
    indexOf ((Value.lookup (key "use_index") (written (indexEntry v))).getD .null) = indexOf v := by
  unfold indexEntry
  split <;> simp [Value.lookup, indexOf]

end Written

theorem Built.stored {q : FindRequest} (h : Built q) : Stored q := by
  induction h with
  | empty => exact ⟨⟨[], rfl, by simp⟩, .inl rfl⟩
  | all => exact ⟨⟨[], rfl, by simp⟩, .inl rfl⟩
  | ofBody h => exact ofBody_stored h
  | withSelector _ h ih =>
    unfold FindRequest.withSelector at h
    rcases he : Value.toEntries _ with e | es
    · rw [he] at h
      cases h
    · rw [he] at h
      cases h
      exact ⟨ih.sort, ih.fields⟩
  | withSort _ h ih =>
    unfold FindRequest.withSort at h
    rcases hs : sortEntries _ with e | s
    · rw [hs] at h
      cases h
    · rw [hs] at h
      cases h
      exact ⟨sortEntries_stored hs, ih.fields⟩
  | withLimit _ h ih =>
    rw [withLimit_ok h]
    exact ⟨ih.sort, ih.fields⟩
  | withSkip _ h ih =>
    rw [withSkip_ok h]
    exact ⟨ih.sort, ih.fields⟩
  | withFields _ h ih =>
    unfold FindRequest.withFields at h
    rcases hf : tupleOrNull _ with e | f
    · rw [hf] at h
      cases h
    · rw [hf] at h
      cases h
      exact ⟨ih.sort, tupleOrNull_ok hf⟩
  | withIndex _ _ _ ih => exact ⟨ih.sort, ih.fields⟩
  | withBookmark _ _ ih => exact ⟨ih.sort, ih.fields⟩

theorem indexOf_of_ne_list {v : Value} (h : ∀ xs, v ≠ .list xs) : indexOf v = v := by
  unfold indexOf
  split
  · exact absurd rfl (h _)
  · rfl

theorem indexOf_ne_list (v : Value) (xs : List Value) : indexOf v ≠ .list xs := by
  unfold indexOf
  split
  · exact fun h => by cases h
  · rename_i hv
    exact hv xs

theorem ofBody_index {body : Value} {q : FindRequest} (h : ofBody body = .ok q) :
    ∀ xs, q.useIndex ≠ .list xs := by
  unfold ofBody at h
  split at h
  · simp only [bind, Except.bind] at h
    split at h
    · cases h
    · split at h
      · cases h
      · cases h
        exact indexOf_ne_list _
  · cases h

theorem ofBody_toBody_of_stored {q : FindRequest} (h : Stored q) :
    ∃ body, q.toBody = .ok body ∧
      ofBody (.dict body) = .ok { q with useIndex := indexOf q.useIndex } := by
  obtain ⟨es, hs, hes⟩ := h.sort
  have hread : es.mapM sortEntry = .ok es := mapM_of_fixed hes
  -- the sort is written only when it has entries, and the fields only when set
  rcases h.fields with hf | ⟨xs, hf⟩ <;> cases es
  all_goals
    refine ⟨_, by simp only [toBody, hs, hf, Value.truthy, Value.items]; rfl, ?_⟩
    simp only [ofBody, Value.getD, Value.get?, lookup_written_append]
    simp +decide (disch := decide) only [lookup_written_single, lookup_optionEntry_of_ne,
      lookup_indexEntry_of_ne, lookup_written_nil, Option.none_or, Option.or_none, if_true,
      if_false, Option.getD_some, getD_lookup_optionEntry, indexOf_lookup_indexEntry]
    -- what is left is reading the sort entries and the fields back
    simp [sortEntries, tupleOrNull, Value.items, hread, hs, hf, bind, Except.bind, pure, Except.pure]

/-- Every built request's body reads back as the request, a list index read as a tuple. -/
theorem ofBody_toBody :
    (∀ q : FindRequest, Built q → ∃ body, q.toBody = .ok body ∧
      ofBody (.dict body) = .ok { q with useIndex := indexOf q.useIndex } ∧
      ((∀ xs, q.useIndex ≠ .list xs) → ofBody (.dict body) = .ok q)) ∧
    (∀ b q, ofBody b = .ok q → ∃ body, q.toBody = .ok body ∧ ofBody (.dict body) = .ok q) := by
  have hwritten : ∀ q : FindRequest, Stored q → (∀ xs, q.useIndex ≠ .list xs) →
      ∃ body, q.toBody = .ok body ∧ ofBody (.dict body) = .ok q := by
    intro q hq hindex
    obtain ⟨body, hbody, hread⟩ := ofBody_toBody_of_stored hq
    rw [indexOf_of_ne_list hindex] at hread
    exact ⟨body, hbody, hread⟩
  refine ⟨fun q hq => ?_, fun b q hq => hwritten q (ofBody_stored hq) (ofBody_index hq)⟩
  obtain ⟨body, hbody, hread⟩ := ofBody_toBody_of_stored hq.stored
  refine ⟨body, hbody, hread, fun hindex => ?_⟩
  rw [hread, indexOf_of_ne_list hindex]

/-- A request sorted by name, descending, with a named index, reads back as itself. -/
theorem ofBody_toBody_sorted_by_name :
    let q := ({ all with sort := .tuple [.dict [(.str "name", .str "desc")]] } : FindRequest).withIndex
      (.str "design") (.str "by_name")
    Built q ∧ ∃ body, q.toBody = .ok body ∧ ofBody (.dict body) = .ok q := by
  intro q
  have hsort : all.withSort (.list [.tuple [.str "name", .str "desc"]]) =
      .ok { all with sort := .tuple [.dict [(.str "name", .str "desc")]] } := by
    simp [withSort, sortEntries, sortEntry, direction, Value.items, Value.checkKey,
      Value.unhashablePart?, Text.ofString_beq, bind, Except.bind, pure, Except.pure]
  have hq : Built q := .withIndex _ _ (.withSort .all hsort)
  obtain ⟨body, hbody, -, hexact⟩ := ofBody_toBody.1 q hq
  exact ⟨hq, body, hbody, hexact fun xs h => by cases h⟩

/-- An index given as a list reads back as a tuple. -/
theorem list_index_reads_back_as_tuple :
    let q := ({} : FindRequest).withIndex (.list [.str "a", .str "b"])
    Built q ∧ ∃ body q', q.toBody = .ok body ∧ ofBody (.dict body) = .ok q' ∧ q'.same q = false := by
  intro q
  have hq : Built q := .withIndex _ _ .empty
  obtain ⟨body, hbody, hread⟩ := ofBody_toBody_of_stored hq.stored
  exact ⟨hq, body, _, hbody, hread, by decide +kernel⟩

end FindRequest

end DocClient
