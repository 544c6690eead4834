import DocClient.Proofs.Database.WriteBack
/-!
# Raw and typed documents kept in step

A raw envelope and a typed record given the same identity operations stay in step (`InStep`)
and read alike at every step (`adapters_read_alike_in_lockstep`).
-/
namespace DocClient

namespace Value

section Entries

variable (k : Value)

theorem lookup_eq_find? : ∀ l : List (Value × Value),
    lookup k l = (l.find? fun p => keyEq k p.1).map (·.2)
  | [] => rfl
  | (k', x) :: rest => by
    by_cases hk : keyEq k k' = true
    · simp [lookup, hk]
    · simp [lookup, hk, lookup_eq_find? rest]

theorem lookup_eq_of_perm {l₁ l₂ : List (Value × Value)} (h : l₁.Perm l₂)
    (hc : l₂.countP (fun p => keyEq k p.1) ≤ 1) : lookup k l₁ = lookup k l₂ := by
  have hf := h.filter fun p => keyEq k p.1
  -- at most one entry is under the key, and one entry has only one order
  have heq : l₁.filter (fun p => keyEq k p.1) = l₂.filter (fun p => keyEq k p.1) := by
    rw [List.countP_eq_length_filter] at hc
    rcases hl : l₂.filter (fun p => keyEq k p.1) with _ | ⟨a, _ | ⟨b, t⟩⟩
    · rw [hl] at hf ⊢
      exact List.perm_nil.mp hf
    · rw [hl] at hf ⊢
      exact List.perm_singleton.mp hf
    · rw [hl] at hc
      simp at hc
  rw [lookup_eq_find?, lookup_eq_find?, ← List.head?_filter, ← List.head?_filter, heq]

theorem erase_eq_filter : ∀ {l : List (Value × Value)}, l.countP (fun p => keyEq k p.1) ≤ 1 →
    erase k l = l.filter fun p => !keyEq k p.1
  | [], _ => rfl
  | (k', x) :: rest, hc => by
    rw [List.countP_cons] at hc
    by_cases hk : keyEq k k' = true
    · -- the erased entry is the only one under the key
      simp only [hk, if_true] at hc
      have hzero : rest.countP (fun p => keyEq k p.1) = 0 := by omega
      have hrest : rest.filter (fun p => !keyEq k p.1) = rest := by
        refine List.filter_eq_self.mpr fun p hp => ?_
        simpa using List.countP_eq_zero.mp hzero p hp
      simp [erase, hk, hrest]
    · simp only [hk, Bool.false_eq_true, if_false, Nat.add_zero] at hc
      simp [erase, hk, erase_eq_filter hc]

end Entries

theorem insert_perm {t : Text} (x : Value) : ∀ {l : List (Value × Value)},
    (∀ p ∈ l, keyEq (.str t) p.1 = true → p.1 = .str t) →
    (insert (.str t) x l).Perm ((.str t, x) :: erase (.str t) l)
  | [], _ => List.Perm.refl _
  | (k', y) :: rest, h => by
    by_cases hk : keyEq (.str t) k' = true
    · have hkey : k' = .str t := h (k', y) (List.mem_cons_self ..) hk
      subst hkey
      simp [insert, erase, hk]
    · have ih := insert_perm x fun p hp => h p (List.mem_cons_of_mem _ hp)
      simp only [insert, erase, hk, Bool.false_eq_true, if_false]
      exact (ih.cons _).trans (List.Perm.swap _ _ _)

end Value

/-- The key of a mark's entry in an envelope. -/
def Mark.entryKey (m : Mark) : Value := .str (Text.ofString m.key)

theorem Mark.keyEq_entryKey (m m' : Mark) :
    Value.keyEq m.entryKey m'.entryKey = decide (m = m') := by
  cases m <;> cases m' <;> decide

/-- An identity operation on a document: set the id or revision, or (un)mark deletion. -/
inductive MarkUpdate where
  | setId (t : Text)
  | setRev (t : Text)
  | setDeleted (flag : Bool)

namespace MarkUpdate

/-- Apply the operation through an adapter. -/
def apply : MarkUpdate → Adapter → Value → Except Error Value
  | .setId t, a, v => a.setId v (.str t)
  | .setRev t, a, v => a.setRev v (.str t)
  | .setDeleted flag, a, v => a.setDeleted v (.bool flag)

/-- Apply operations in turn, stopping at the first that fails. -/
def applyAll : List MarkUpdate → Adapter → Value → Except Error Value
  | [], _, v => .ok v
  | u :: us, a, v => (u.apply a v).bind (applyAll us a)

end MarkUpdate

namespace Adapter

open FindRequest (written)

/-! ### Envelopes laid out mark by mark -/

/-- A mark's entry in an envelope, when the envelope holds one. -/
def markEntry (m : Mark) (o : Option Value) : List (Value × Value) :=
  o.toList.map fun x => (m.entryKey, x)

/-- An envelope in the typed adapter's order: the marks first, then the other entries. -/
def laidOut (o : Mark → Option Value) (W : List (Value × Value)) : List (Value × Value) :=
  markEntry .id (o .id) ++ markEntry .rev (o .rev) ++ markEntry .deleted (o .deleted) ++ W

/-- The marks with one of them replaced. -/
def withMark (o : Mark → Option Value) (m : Mark) (x : Option Value) : Mark → Option Value :=
  fun m' => if m' = m then x else o m'

/-- Entries none of which is under a mark's key. -/
def Unmarked (W : List (Value × Value)) : Prop :=
  ∀ m : Mark, ∀ p ∈ W, Value.keyEq m.entryKey p.1 = false

theorem unmarked_fields (s : Schema) (fs : List (String × Value)) :
    Unmarked (written (keyedEntries s.fields fs)) := by
  intro m p hp
  obtain ⟨q, hq, rfl⟩ := List.mem_map.mp hp
  obtain ⟨f, hf, hkey⟩ := key_of_mem_keyedEntries hq
  have hreserved : (Text.ofString m.key).startsWith "_" = true := by cases m <;> decide
  have hne : m.key ≠ q.1 := fun he => by
    have hplain := s.key_not_reserved f hf
    rw [← hkey, ← he, hreserved] at hplain
    cases hplain
  simp only [Mark.entryKey, Value.keyEq_str, Text.ofString_beq, beq_eq_false_iff_ne.mpr hne]

@[simp] theorem markEntry_none (m : Mark) : markEntry m none = [] := rfl

theorem markEntry_ite (m : Mark) (c : Bool) (x : Value) :
    markEntry m (if c then some x else none) = if c then [(m.entryKey, x)] else [] := by
  cases c <;> rfl

theorem filter_markEntry (m m' : Mark) (x : Option Value) :
    (markEntry m' x).filter (fun p => Value.keyEq m.entryKey p.1) =
      if m = m' then markEntry m' x else [] := by
  cases x <;> by_cases h : m = m' <;> simp [markEntry, Mark.keyEq_entryKey, h]

theorem filter_not_markEntry (m m' : Mark) (x : Option Value) :
    (markEntry m' x).filter (fun p => !Value.keyEq m.entryKey p.1) =
      if m = m' then [] else markEntry m' x := by
  cases x <;> by_cases h : m = m' <;> simp [markEntry, Mark.keyEq_entryKey, h]

section LaidOut

variable {o : Mark → Option Value} {W : List (Value × Value)} (hW : Unmarked W)
include hW

theorem filter_laidOut (m : Mark) :
    (laidOut o W).filter (fun p => Value.keyEq m.entryKey p.1) = markEntry m (o m) := by
  have hnone : W.filter (fun p => Value.keyEq m.entryKey p.1) = [] :=
    List.filter_eq_nil_iff.mpr fun p hp => by simp [hW m p hp]
  cases m <;> simp [laidOut, List.filter_append, filter_markEntry, hnone]

theorem filter_not_laidOut (m : Mark) :
    (laidOut o W).filter (fun p => !Value.keyEq m.entryKey p.1) = laidOut (withMark o m none) W := by
  have hall : W.filter (fun p => !Value.keyEq m.entryKey p.1) = W :=
    List.filter_eq_self.mpr fun p hp => by simp [hW m p hp]
  cases m <;> simp [laidOut, withMark, List.filter_append, filter_not_markEntry, hall]

theorem countP_laidOut (m : Mark) :
    (laidOut o W).countP (fun p => Value.keyEq m.entryKey p.1) ≤ 1 := by
  rw [List.countP_eq_length_filter, filter_laidOut hW]
  cases o m <;> simp [markEntry]

theorem lookup_laidOut (m : Mark) : Value.lookup m.entryKey (laidOut o W) = o m := by
  rw [Value.lookup_eq_find?, ← List.head?_filter, filter_laidOut hW]
  cases o m <;> rfl

theorem key_of_mem_laidOut {m : Mark} {p : Value × Value} (hp : p ∈ laidOut o W)
    (hk : Value.keyEq m.entryKey p.1 = true) : p.1 = m.entryKey := by
  have hmem : p ∈ (laidOut o W).filter (fun p => Value.keyEq m.entryKey p.1) :=
    List.mem_filter.mpr ⟨hp, hk⟩
  rw [filter_laidOut hW] at hmem
  obtain ⟨x, -, rfl⟩ := List.mem_map.mp hmem
  rfl

omit hW in
theorem cons_laidOut_perm (m : Mark) (x : Value) :
    ((m.entryKey, x) :: laidOut (withMark o m none) W).Perm (laidOut (withMark o m (some x)) W) := by
  cases m
  · simp [laidOut, withMark, markEntry]
  · simp only [laidOut, withMark, markEntry, if_true, reduceCtorEq, if_false, Option.toList_none,
      Option.toList_some, List.map_nil, List.map_cons, List.nil_append, List.append_assoc,
      List.cons_append]
    exact List.perm_middle.symm
  · simp only [laidOut, withMark, markEntry, if_true, reduceCtorEq, if_false, Option.toList_none,
      Option.toList_some, List.map_nil, List.map_cons, List.nil_append, List.append_assoc,
      List.cons_append]
    rw [← List.append_assoc, ← List.append_assoc]
    exact List.perm_middle.symm

variable {e : List (Value × Value)} (he : e.Perm (laidOut o W))
include he

theorem insert_laidOut (m : Mark) (x : Value) :
    (Value.insert m.entryKey x e).Perm (laidOut (withMark o m (some x)) W) := by
  have hkeys : ∀ p ∈ e, Value.keyEq m.entryKey p.1 = true → p.1 = m.entryKey :=
    fun p hp hk => key_of_mem_laidOut hW (he.mem_iff.mp hp) hk
  have hcount : e.countP (fun p => Value.keyEq m.entryKey p.1) ≤ 1 := by
    rw [he.countP_eq]
    exact countP_laidOut hW m
  have hrest : (Value.erase m.entryKey e).Perm (laidOut (withMark o m none) W) := by
    rw [Value.erase_eq_filter _ hcount, ← filter_not_laidOut hW m]
    exact he.filter _
  exact (Value.insert_perm x hkeys).trans ((hrest.cons _).trans (cons_laidOut_perm m x))

theorem erase_laidOut (m : Mark) :
    (Value.erase m.entryKey e).Perm (laidOut (withMark o m none) W) := by
  have hcount : e.countP (fun p => Value.keyEq m.entryKey p.1) ≤ 1 := by
    rw [he.countP_eq]
    exact countP_laidOut hW m
  rw [Value.erase_eq_filter _ hcount, ← filter_not_laidOut hW m]
  exact he.filter _

theorem lookup_of_laidOut (m : Mark) : Value.lookup m.entryKey e = o m := by
  rw [Value.lookup_eq_of_perm _ he (countP_laidOut hW m), lookup_laidOut hW]

end LaidOut

/-! ### The typed envelope and the raw one -/

/-- The marks a typed record's envelope holds. -/
def typedMarks (i r d : Value) : Mark → Option Value
  | .id => if i.truthy then some i else none
  | .rev => if r.truthy then some r else none
  | .deleted => if d.truthy then some (.bool true) else none

theorem laidOut_typedMarks (i r d : Value) (W : List (Value × Value)) :
    laidOut (typedMarks i r d) W = markEntries i r d ++ W := by
  simp only [laidOut, typedMarks, markEntry_ite, markEntries, List.append_assoc]
  rfl

/-- A raw envelope keeps a mark as its typed twin has it, or not at all when falsy. -/
def Kept (x : Value) (o : Option Value) : Prop := o = some x ∨ (o = none ∧ x.truthy = false)

theorem kept_typed (x : Value) : Kept x (if x.truthy then some x else none) := by
  by_cases hx : x.truthy
  · exact .inl (by simp [hx])
  · exact .inr ⟨by simp [hx], by simpa using hx⟩

theorem Kept.truthyOrNull {x : Value} {o : Option Value} (h : Kept x o) :
    (o.getD .null).truthyOrNull = x.truthyOrNull := by
  rcases h with rfl | ⟨rfl, hx⟩
  · rfl
  · simp [Value.truthyOrNull, hx]

/-- An `_id` or `_rev` entry with a falsy value: one the typed adapter never writes. -/
def falsyMark (p : Value × Value) : Bool :=
  (Value.keyEq Mark.id.entryKey p.1 || Value.keyEq Mark.rev.entryKey p.1) && !p.2.truthy

theorem filter_falsyMark_kept {m : Mark} (hm : m ≠ .deleted) {x : Value} {o : Option Value}
    (h : Kept x o) :
    (markEntry m o).filter (fun p => !falsyMark p) = markEntry m (if x.truthy then some x else none) := by
  have hkey : (Value.keyEq Mark.id.entryKey m.entryKey || Value.keyEq Mark.rev.entryKey m.entryKey) =
      true := by
    cases m <;> simp_all [Mark.keyEq_entryKey]
  have hfalsy : falsyMark (m.entryKey, x) = !x.truthy := by
    simp only [falsyMark, hkey, Bool.true_and]
  rcases h with rfl | ⟨rfl, hx⟩
  · by_cases hx : x.truthy <;> simp [markEntry, hfalsy, hx]
  · simp [markEntry, hx]

theorem filter_falsyMark_laidOut {o : Mark → Option Value} {W : List (Value × Value)}
    (hW : Unmarked W) {i r d : Value} (hi : Kept i (o .id)) (hr : Kept r (o .rev))
    (hd : o .deleted = typedMarks i r d .deleted) :
    (laidOut o W).filter (fun p => !falsyMark p) = markEntries i r d ++ W := by
  have hfields : W.filter (fun p => !falsyMark p) = W :=
    List.filter_eq_self.mpr fun p hp => by simp [falsyMark, hW .id p hp, hW .rev p hp]
  have hdel : (markEntry .deleted (o .deleted)).filter (fun p => !falsyMark p) =
      markEntry .deleted (o .deleted) :=
    List.filter_eq_self.mpr fun p hp => by
      obtain ⟨x, -, rfl⟩ := List.mem_map.mp hp
      simp [falsyMark, Mark.keyEq_entryKey]
  rw [← laidOut_typedMarks, laidOut, laidOut, List.filter_append, List.filter_append,
    List.filter_append, filter_falsyMark_kept (by decide) hi, filter_falsyMark_kept (by decide) hr,
    hdel, hfields, hd]
  rfl

theorem falsyMark_markEntries {W : List (Value × Value)} (hW : Unmarked W) (i r d : Value) :
    ∀ p ∈ markEntries i r d ++ W, falsyMark p = false := by
  have h := filter_falsyMark_laidOut (o := typedMarks i r d) hW (kept_typed i) (kept_typed r) rfl
  rw [laidOut_typedMarks] at h
  intro p hp
  simpa using List.filter_eq_self.mp h p hp

/-! ### Lockstep -/

/-- A raw envelope `e` in step with a typed record. -/
structure InStep (s : Schema) (fs : List (String × Value)) (i r d : Value)
    (e : List (Value × Value)) : Prop where
  fits : fitsFields s.fields fs
  laid : ∃ o : Mark → Option Value, Kept i (o .id) ∧ Kept r (o .rev) ∧
    o .deleted = typedMarks i r d .deleted ∧ e.Perm (laidOut o (written (keyedEntries s.fields fs)))

section Record

variable {s : Schema} {fs : List (String × Value)}

theorem assignable_fits (hfit : fitsFields s.fields fs) (n : String) :
    Record.assignable fs n = .ok () := by
  simp [Record.assignable, tableEntry_reserved hfit (n := "__pydantic_setattr_handlers__") (by decide)]

theorem readMark_fits (hfit : fitsFields s.fields fs) (m : Mark) (stored : Value) :
    Record.readMark s fs [] m stored = .ok stored :=
  Record.readMark_plain s fs [] m stored (tableEntry_reserved hfit (by cases m <;> decide))
    (tableEntry_reserved hfit (by decide)) rfl

theorem InStep.of_record (hfit : fitsFields s.fields fs) (i r d : Value) :
    InStep s fs i r d (markEntries i r d ++ written (keyedEntries s.fields fs)) :=
  ⟨hfit, typedMarks i r d, kept_typed i, kept_typed r, rfl, by rw [laidOut_typedMarks]⟩

theorem InStep.update {i r d : Value} {e : List (Value × Value)} (h : InStep s fs i r d e)
    (u : MarkUpdate) :
    ∃ e' i' r' d', u.apply .envelope (.dict e) = .ok (.dict e') ∧
      u.apply (.model s) (.record s fs i r d []) = .ok (.record s fs i' r' d' []) ∧
      InStep s fs i' r' d' e' := by
  obtain ⟨hfit, o, hi, hr, hd, he⟩ := h
  have hW := unmarked_fields s fs
  cases u with
  | setId t =>
    refine ⟨_, .str t, r, d, rfl, ?_, hfit, withMark o .id (some (.str t)), .inl rfl, hr, hd,
      insert_laidOut hW he .id (.str t)⟩
    simp [MarkUpdate.apply, setId, setMark, setMarkIn, setModelMark, assignable_fits hfit, Record.slot?,
      tableEntry, Functor.map, Except.map]
  | setRev t =>
    refine ⟨_, i, .str t, d, rfl, ?_, hfit, withMark o .rev (some (.str t)), hi, .inl rfl, hd,
      insert_laidOut hW he .rev (.str t)⟩
    simp [MarkUpdate.apply, setRev, setMark, setMarkIn, setModelMark, assignable_fits hfit, Record.slot?,
      tableEntry, Functor.map, Except.map]
  | setDeleted flag =>
    cases flag with
    | true =>
      refine ⟨_, i, r, .bool true, rfl, ?_, hfit, withMark o .deleted (some (.bool true)), hi, hr,
        rfl, insert_laidOut hW he .deleted (.bool true)⟩
      simp [MarkUpdate.apply, setDeleted, setDeletedIn, setModelMark,
        assignable_fits hfit, Record.slot?, tableEntry, Functor.map, Except.map]
    | false =>
      refine ⟨_, i, r, .bool false, rfl, ?_, hfit, withMark o .deleted none, hi, hr, rfl,
        erase_laidOut hW he .deleted⟩
      simp [MarkUpdate.apply, setDeleted, setDeletedIn, setModelMark,
        assignable_fits hfit, Record.slot?, tableEntry, Functor.map, Except.map]

theorem InStep.updateAll : ∀ (us : List MarkUpdate) {i r d : Value} {e : List (Value × Value)},
    InStep s fs i r d e →
    ∃ e' i' r' d', MarkUpdate.applyAll us .envelope (.dict e) = .ok (.dict e') ∧
      MarkUpdate.applyAll us (.model s) (.record s fs i r d []) = .ok (.record s fs i' r' d' []) ∧
      InStep s fs i' r' d' e'
  | [], _, _, _, e, h => ⟨e, _, _, _, rfl, rfl, h⟩
  | u :: us, _, _, _, _, h => by
    obtain ⟨e₁, i₁, r₁, d₁, henv, hrec, h₁⟩ := h.update u
    obtain ⟨e₂, i₂, r₂, d₂, henv₂, hrec₂, h₂⟩ := InStep.updateAll us h₁
    refine ⟨e₂, i₂, r₂, d₂, ?_, ?_, h₂⟩
    · rw [MarkUpdate.applyAll, henv]
      exact henv₂
    · rw [MarkUpdate.applyAll, hrec]
      exact hrec₂

end Record

/-- A raw envelope and a typed document that read alike. -/
structure ReadAlike (s : Schema) (e : List (Value × Value)) (v : Value) : Prop where
  id : Adapter.envelope.getId (.dict e) = ((model s).getId v).map Value.truthyOrNull
  rev : Adapter.envelope.getRev (.dict e) = ((model s).getRev v).map Value.truthyOrNull
  deleted : Adapter.envelope.isDeleted (.dict e) = ((model s).isDeleted v).map fun x => .bool x.truthy
  envelope : ∃ env, (model s).toEnvelope v = .ok env ∧ Adapter.envelope.toEnvelope (.dict e) = .ok e ∧
    (e.filter fun p => !falsyMark p).Perm env ∧ (e.Perm env ↔ ∀ p ∈ e, falsyMark p = false)

theorem InStep.readAlike {s : Schema} {fs : List (String × Value)} {i r d : Value}
    {e : List (Value × Value)} (h : InStep s fs i r d e) : ReadAlike s e (.record s fs i r d []) := by
  obtain ⟨hfit, o, hi, hr, hd, he⟩ := h
  have hW := unmarked_fields s fs
  have hmark : ∀ m : Mark, Value.getD e m.key = (o m).getD .null := fun m => by
    rw [Value.getD, Value.get?]
    exact congrArg (·.getD .null) (lookup_of_laidOut hW he m)
  have hkept : (e.filter fun p => !falsyMark p).Perm
      (markEntries i r d ++ written (keyedEntries s.fields fs)) := by
    rw [← filter_falsyMark_laidOut hW hi hr hd]
    exact he.filter _
  refine ⟨?_, ?_, ?_, ⟨_, toEnvelope_record hfit i r d, rfl, hkept, ?_⟩⟩
  · show Except.ok (Value.getD e Mark.id.key).truthyOrNull = _
    simp [getId, getMark, modelMark, readMark_fits hfit, hmark, hi.truthyOrNull, Except.map]
  · show Except.ok (Value.getD e Mark.rev.key).truthyOrNull = _
    simp [getRev, getMark, modelMark, readMark_fits hfit, hmark, hr.truthyOrNull, Except.map]
  · have hdel : (Value.getD e Mark.deleted.key).truthy = d.truthy := by
      rw [hmark, hd]
      by_cases hd' : d.truthy <;> simp [typedMarks, hd']
    show Except.ok (Value.bool (Value.getD e Mark.deleted.key).truthy) = _
    simp [isDeleted, modelMark, readMark_fits hfit, hdel, Except.map]
  · constructor
    · intro hperm p hp
      exact falsyMark_markEntries hW i r d p (hperm.mem_iff.mp hp)
    · intro hnone
      have hself : (e.filter fun p => !falsyMark p) = e :=
        List.filter_eq_self.mpr fun p hp => by simp [hnone p hp]
      rwa [hself] at hkept

/-- A raw envelope and a typed record given the same identity operations read alike throughout. -/
theorem adapters_read_alike_in_lockstep (s : Schema) {fs : List (String × Value)}
    (hfit : fitsFields s.fields fs) (i r d : Value) (us : List MarkUpdate) :
    ∃ e₀ e v, (model s).toEnvelope (.record s fs i r d []) = .ok e₀ ∧
      MarkUpdate.applyAll us .envelope (.dict e₀) = .ok (.dict e) ∧
      MarkUpdate.applyAll us (.model s) (.record s fs i r d []) = .ok v ∧ ReadAlike s e v := by
  obtain ⟨e, i', r', d', henv, hrec, h⟩ := (InStep.of_record hfit i r d).updateAll us
  exact ⟨_, e, _, toEnvelope_record hfit i r d, henv, hrec, h.readAlike⟩

/-- A user whose id is first set empty and then set, given a revision and marked deleted. -/
theorem adapters_read_alike_after_empty_id :
    let fs : List (String × Value) := [("name", .str "Ada"), ("age", .int 36), ("tags", .list [])]
    let us : List MarkUpdate := [.setId "", .setRev "1-a", .setId "ada", .setDeleted true]
    fitsFields Schema.user.fields fs = true ∧
      ∃ e₀ e v, (model .user).toEnvelope (.record .user fs .null .null (.bool false) []) = .ok e₀ ∧
        MarkUpdate.applyAll us .envelope (.dict e₀) = .ok (.dict e) ∧
        MarkUpdate.applyAll us (.model .user) (.record .user fs .null .null (.bool false) []) =
          .ok v ∧ ReadAlike .user e v := by
  intro fs us
  exact ⟨by decide, adapters_read_alike_in_lockstep .user (by decide) .null .null (.bool false) us⟩

/-- An empty id stays in the raw envelope but not in the typed one. -/
theorem empty_id_kept_by_raw_envelope :
    let v : Value :=
      .record .user [("name", .str "a"), ("age", .int 1), ("tags", .list [])] .null .null (.bool false) []
    ∃ e₀ e v' env, (model .user).toEnvelope v = .ok e₀ ∧
      MarkUpdate.applyAll [.setId ""] .envelope (.dict e₀) = .ok (.dict e) ∧
      MarkUpdate.applyAll [.setId ""] (.model .user) v = .ok v' ∧
      (model .user).toEnvelope v' = .ok env ∧ (Value.dict e).eq (.dict env) = false := by
  intro v
  have hfit : fitsFields Schema.user.fields
      [("name", .str "a"), ("age", .int 1), ("tags", .list [])] = true := by decide
  exact ⟨_, _, _, _, toEnvelope_record hfit _ _ _, rfl, rfl, toEnvelope_record hfit _ _ _,
    by decide +kernel⟩

end Adapter

end DocClient
