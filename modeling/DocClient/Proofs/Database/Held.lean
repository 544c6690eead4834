import DocClient.Database.Batch
import DocClient.Proofs.Query.RoundTrip
/-!
# Documents held in others

What the caller sees of a batch document is its own content with the documents it holds in
place; its marks and its kind are the same seen either way (`Batch.getMark_view`).
-/
namespace DocClient

namespace Value

theorem keyEq_str_iff (t : Text) (x : Value) : keyEq (.str t) x = true ↔ x.asText? = some t := by
  cases x with
  | str s =>
    show keyEq (.str t) (.str s) = true ↔ some s = some t
    rw [keyEq_str, beq_iff_eq, Option.some.injEq, eq_comm]
  | updateMode m =>
    show (t == Text.ofString m.text) = true ↔ some (Text.ofString m.text) = some t
    rw [beq_iff_eq, Option.some.injEq, eq_comm]
  | _ => exact ⟨fun h => (by cases h), fun h => (by cases h)⟩

theorem eq_of_keyEq_str {t u : Text} {x : Value} (ht : keyEq (.str t) x = true)
    (hu : keyEq (.str u) x = true) : t = u := by
  rw [keyEq_str_iff] at ht hu
  rw [ht] at hu
  exact Option.some.inj hu

theorem lookup_map_of_keep {t : Text} {f : Value × Value → Value × Value}
    (hkey : ∀ e, (f e).1 = e.1) (hkeep : ∀ e, keyEq (.str t) e.1 = true → f e = e) :
    ∀ es : List (Value × Value), lookup (.str t) (es.map f) = lookup (.str t) es
  | [] => rfl
  | (k, v) :: rest => by
    rw [List.map_cons]
    rcases hfe : f (k, v) with ⟨k', v'⟩
    have hk : k' = k := by simpa [hfe] using hkey (k, v)
    subst hk
    by_cases he : keyEq (.str t) k' = true
    · have hsame := hkeep (k', v) he
      rw [hfe, Prod.mk.injEq] at hsame
      simp [lookup, he, hsame.2]
    · simp [lookup, he, lookup_map_of_keep hkey hkeep rest]

end Value

theorem tableEntry_map_of_keep {name : String} {f : String × Value → String × Value}
    (hkey : ∀ e, (f e).1 = e.1) (hkeep : ∀ e, e.1 = name → f e = e) :
    ∀ fs : List (String × Value), tableEntry (fs.map f) name = tableEntry fs name
  | [] => rfl
  | e :: rest => by
    have ih := tableEntry_map_of_keep hkey hkeep rest
    unfold tableEntry at ih ⊢
    rw [List.map_cons, List.find?_cons, List.find?_cons, hkey]
    by_cases he : e.1 = name
    · rw [hkeep e he]
      simp [he]
    · simp only [he, decide_false]
      exact ih

theorem ne_of_inContent {n name : String} (hn : (Text.ofString n).startsWith "_" = false)
    (hname : (Text.ofString name).startsWith "_" = true) : n ≠ name := by
  rintro rfl
  rw [hn] at hname
  cases hname

theorem Value.eq_dict_of_setAt {s : Step} {p : List Step} {x v : Value} {es : List (Value × Value)}
    (h : v.setAt (s :: p) x = .dict es) : ∃ es', v = .dict es' := by
  cases s <;> cases v <;> first | exact ⟨_, rfl⟩ | simp [Value.setAt] at h

theorem Value.eq_record_of_setAt {s : Step} {p : List Step} {x v : Value} {sc : Schema}
    {fs : List (String × Value)} {i r d : Value} {ss : List (String × Value)}
    (h : v.setAt (s :: p) x = .record sc fs i r d ss) : ∃ fs', v = .record sc fs' i r d ss := by
  cases s <;> cases v <;> simp [Value.setAt] at h <;> obtain ⟨rfl, -, rfl, rfl, rfl, rfl⟩ := h <;>
    exact ⟨_, rfl⟩

section Frame

variable {s : Step} (hs : s.inContent = true) (p : List Step) (x : Value)
include hs

theorem Adapter.getMark_setAt (a : Adapter) (m : Mark) (members : Members) (v : Value) :
    a.getMark m (v.setAt (s :: p) x) members = a.getMark m v members := by
  have hattr : (Text.ofString m.attribute).startsWith "_" = true := by cases m <;> decide
  cases s with
  | entry k =>
    have hk : k ≠ Text.ofString m.key := by
      simp only [Step.inContent, List.all_cons, List.all_nil, Bool.and_true, Bool.and_eq_true,
        bne_iff_ne, ne_eq] at hs
      cases m with
      | id => exact hs.1
      | rev => exact hs.2.1
      | deleted => exact hs.2.2
    cases v <;> cases a <;> try rfl
    case dict.envelope es =>
      -- the entry changed is under `k`, which is no mark's key
      have hl := Value.lookup_map_of_keep (t := Text.ofString m.key)
        (f := fun e => if Value.keyEq (.str k) e.1 then (e.1, Value.setAt e.2 p x) else e)
        (fun e => by split <;> rfl) (fun e he => by
          have hne : ¬ Value.keyEq (.str k) e.1 = true := fun hk' =>
            hk (Value.eq_of_keyEq_str hk' he)
          simp [hne]) es
      simp only [Value.setAt, Adapter.getMark, Value.getD, Value.get?, hl]
      rfl
  | item i => cases v <;> cases a <;> rfl
  | field n =>
    have hn' : (Text.ofString n).startsWith "_" = false := by simpa [Step.inContent] using hs
    cases v <;> cases a <;> try rfl
    case record.model sc fs i r d ss _ =>
      -- the field changed is named `n`, and the names the marks are read under are reserved
      have hE : ∀ name, (Text.ofString name).startsWith "_" = true →
          tableEntry (fs.map fun e => if e.1 = n then (e.1, Value.setAt e.2 p x) else e) name =
            tableEntry fs name := fun name hname =>
        tableEntry_map_of_keep (fun e => by split <;> rfl)
          (fun e he => if_neg fun hn => ne_of_inContent hn' hname (hn.symm.trans he)) fs
      simp only [Value.setAt, Adapter.getMark, Adapter.modelMark, Record.readMark,
        hE _ hattr, hE "__private_attributes__" (by decide)]

end Frame

namespace Batch

theorem foldl_setAt_keeps {α : Type} (f : Value → α)
    (hf : ∀ (s : Step) p x v, s.inContent = true → f (v.setAt (s :: p) x) = f v) (g : Hold → Value) :
    ∀ (hs : List Hold) (v : Value), f (hs.foldl (fun v h => v.setAt (h.first :: h.rest) (g h)) v) = f v
  | [], _ => rfl
  | h :: hs, v => by
    rw [List.foldl_cons, foldl_setAt_keeps f hf g hs, hf _ _ _ _ h.inContent]

@[simp] theorem length_viewsUpTo (b : Batch) : ∀ n, (b.viewsUpTo n).length = n
  | 0 => rfl
  | n + 1 => by simp [viewsUpTo, length_viewsUpTo b n]

theorem viewsUpTo_getD (b : Batch) : ∀ n k, k < n →
    (b.viewsUpTo n).getD k .null = b.seenAs (b.viewsUpTo k) k
  | 0, _, hk => absurd hk (Nat.not_lt_zero _)
  | n + 1, k, hk => by
    simp only [viewsUpTo, List.getD_eq_getElem?_getD]
    rcases Nat.lt_or_ge k n with hlt | hge
    · rw [List.getElem?_append_left (by simpa using hlt), ← List.getD_eq_getElem?_getD,
        viewsUpTo_getD b n k hlt]
    · have hkn : k = n := by omega
      subst hkn
      simp

theorem view_keeps {α : Type} (f : Value → α)
    (hf : ∀ (s : Step) p x v, s.inContent = true → f (v.setAt (s :: p) x) = f v) (b : Batch) (k : Nat) :
    f (b.view k) = f (b.documents.getD k .null) := by
  unfold view
  rcases Nat.lt_or_ge k b.documents.length with hk | hk
  · rw [viewsUpTo_getD b _ k hk]
    exact foldl_setAt_keeps f hf _ _ _
  · simp only [List.getD_eq_getElem?_getD]
    rw [List.getElem?_eq_none (by simpa using hk), List.getElem?_eq_none hk]

theorem getMark_view (b : Batch) (a : Adapter) (m : Mark) (members : Members) (k : Nat) :
    a.getMark m (b.view k) members = a.getMark m (b.documents.getD k .null) members :=
  view_keeps (fun v => a.getMark m v members)
    (fun _ p x v hs => Adapter.getMark_setAt hs p x a m members v) b k

theorem getId_view (b : Batch) (a : Adapter) (k : Nat) :
    a.getId (b.view k) = a.getId (b.documents.getD k .null) :=
  getMark_view b a .id {} k

theorem of_view (P : Value → Prop)
    (hP : ∀ (s : Step) p x v, P (v.setAt (s :: p) x) → P v) (b : Batch) (k : Nat)
    (h : P (b.view k)) : P (b.documents.getD k .null) := by
  unfold view at h
  rcases Nat.lt_or_ge k b.documents.length with hk | hk
  · rw [viewsUpTo_getD b _ k hk] at h
    -- unwind the holds put in, last first
    have hfold : ∀ (hs : List Hold) (v : Value),
        P (hs.foldl (fun v h => v.setAt (h.first :: h.rest) ((b.viewsUpTo k).getD h.held .null)) v) →
          P v := by
      intro hs
      induction hs with
      | nil => exact fun _ hv => hv
      | cons h hs ih => exact fun v hv => hP _ _ _ _ (ih _ hv)
    exact hfold _ _ h
  · simp only [List.getD_eq_getElem?_getD] at h ⊢
    rwa [List.getElem?_eq_none (by simpa using hk), ← List.getElem?_eq_none hk] at h

theorem view_eq_dict {b : Batch} {k : Nat} {es : List (Value × Value)} (h : b.view k = .dict es) :
    ∃ es', b.documents.getD k .null = .dict es' :=
  of_view (fun v => ∃ es', v = .dict es')
    (fun _ _ _ _ ⟨_, hv⟩ => Value.eq_dict_of_setAt hv) b k ⟨es, h⟩

theorem view_eq_record {b : Batch} {k : Nat} {sc : Schema} {fs : List (String × Value)}
    {i r d : Value} {ss : List (String × Value)} (h : b.view k = .record sc fs i r d ss) :
    ∃ fs', b.documents.getD k .null = .record sc fs' i r d ss :=
  of_view (fun v => ∃ fs', v = .record sc fs' i r d ss)
    (fun _ _ _ _ ⟨_, hv⟩ => Value.eq_record_of_setAt hv) b k ⟨fs, h⟩

theorem view_of_holds_nil {b : Batch} (h : b.holds = []) (k : Nat) :
    b.view k = b.documents.getD k .null := by
  unfold view
  rcases Nat.lt_or_ge k b.documents.length with hk | hk
  · rw [viewsUpTo_getD b _ k hk, seenAs, h]
    rfl
  · simp only [List.getD_eq_getElem?_getD]
    rw [List.getElem?_eq_none (by simpa using hk), List.getElem?_eq_none hk]

theorem atPlaces_ofList (docs : List Value) : (ofList docs).atPlaces = docs := by
  have hview : ∀ k, (ofList docs).view k = docs.getD k .null := view_of_holds_nil rfl
  apply List.ext_getElem
  · simp [atPlaces, ofList]
  · intro i h1 h2
    simp only [atPlaces, List.getElem_map, hview]
    simp [ofList, List.getD_eq_getElem?_getD, List.getElem?_eq_getElem h2]

end Batch

end DocClient
