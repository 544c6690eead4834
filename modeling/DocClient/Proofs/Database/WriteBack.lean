import DocClient.Proofs.Database.FailedSubmission
import DocClient.Proofs.Document.Envelope
/-!
# Writing the server's id and revision back

A write-back changes only the id and revision (`Remarked`), never fails on a document as the
library makes it, and the last successful place wins (`write_back_sets_reported_marks`).
-/
namespace DocClient

namespace Value

theorem lookup_insert_self (t : Text) (v : Value) :
    ∀ es : List (Value × Value), lookup (.str t) (insert (.str t) v es) = some v
  | [] => by simp [insert, lookup]
  | (k, w) :: rest => by
    cases hk : keyEq (.str t) k
    · simp only [insert, hk, Bool.false_eq_true, if_false, lookup]
      exact lookup_insert_self t v rest
    · simp [insert, lookup, hk]

theorem lookup_insert_of_ne {t u : Text} (h : t ≠ u) (v : Value) :
    ∀ es : List (Value × Value), lookup (.str t) (insert (.str u) v es) = lookup (.str t) es
  | [] => by simp [insert, lookup, h]
  | (k, w) :: rest => by
    cases hk : keyEq (.str u) k
    · simp only [insert, hk, Bool.false_eq_true, if_false, lookup]
      rw [lookup_insert_of_ne h v rest]
    · -- the key that takes the value is no key for `t`
      have ht : keyEq (.str t) k = false := by
        rw [keyEq_str_iff] at hk
        rw [Bool.eq_false_iff, ne_eq, keyEq_str_iff, hk]
        exact fun h' => h (Option.some.inj h').symm
      simp [insert, lookup, hk, ht]

theorem get?_put_self (es : List (Value × Value)) (k : String) (v : Value) :
    get? (put es k v) k = some v :=
  lookup_insert_self _ v es

theorem get?_put_of_ne {k k' : String} (h : k ≠ k') (es : List (Value × Value)) (v : Value) :
    get? (put es k' v) k = get? es k := by
  refine lookup_insert_of_ne (fun he => h ?_) v es
  have hb : (Text.ofString k == Text.ofString k') = true := beq_iff_eq.mpr he
  rwa [Text.ofString_beq, beq_iff_eq] at hb
end Value

namespace Adapter

open FindRequest (written)

/-- A document that keeps its marks where the adapter reads them. -/
def plainDocument : Adapter → Value → Bool
  | .model _, .record s fs _ _ _ ss => fitsFields s.fields fs && ss.isEmpty
  | _, _ => true

/-- A document the adapter can write marks into. -/
def Writable (a : Adapter) (d : Value) : Prop :=
  a.plainDocument d = true ∧ ∃ env, a.toEnvelope d = .ok env

/-- `d'` is `d` with the id `i` and revision `r` written in, and nothing else changed. -/
structure Remarked (a : Adapter) (d i r d' : Value) : Prop where
  id : a.getId d' = .ok i
  rev : a.getRev d' = .ok r
  deleted : a.isDeleted d' = a.isDeleted d
  entries : ∃ env env', a.toEnvelope d = .ok env ∧ a.toEnvelope d' = .ok env' ∧
    ∀ k, k ≠ "_id" → k ≠ "_rev" → Value.get? env' k = Value.get? env k

theorem Remarked.trans {a : Adapter} {d i r d₁ i' r' d₂ : Value} (h₁ : Remarked a d i r d₁)
    (h₂ : Remarked a d₁ i' r' d₂) : Remarked a d i' r' d₂ where
  id := h₂.id
  rev := h₂.rev
  deleted := h₂.deleted.trans h₁.deleted
  entries := by
    obtain ⟨env, env₁, he, he₁, hk₁⟩ := h₁.entries
    obtain ⟨env₁', env₂, he₁', he₂, hk₂⟩ := h₂.entries
    rw [he₁] at he₁'
    cases he₁'
    exact ⟨env, env₂, he, he₂, fun k hi hr => (hk₂ k hi hr).trans (hk₁ k hi hr)⟩

theorem lookup_markEntry_of_ne {k n : String} (h : k ≠ n) (c : Bool) (x : Value) :
    Value.lookup (.str (Text.ofString k)) (if c then [(.str (Text.ofString n), x)] else []) = none := by
  cases c <;> simp [Value.lookup, Text.ofString_beq, h]

theorem get?_markEntries_of_ne {k : String} (h₁ : k ≠ "_id") (h₂ : k ≠ "_rev")
    (i r i' r' d : Value) (l : List (Value × Value)) :
    Value.get? (markEntries i' r' d ++ l) k = Value.get? (markEntries i r d ++ l) k := by
  simp only [markEntries, Value.get?, List.append_assoc, Value.lookup_append, lookup_markEntry_of_ne h₁,
    lookup_markEntry_of_ne h₂, Option.none_or]

theorem remarked_dict {es : List (Value × Value)} {i r : Value} (hi : i.truthy = true)
    (hr : r.truthy = true) :
    Remarked .envelope (.dict es) i r (.dict (Value.put (Value.put es "_id" i) "_rev" r)) where
  id := by
    simp only [getId, getMark, Mark.key, Value.getD, Value.get?_put_of_ne (by decide : "_id" ≠ "_rev"),
      Value.get?_put_self, Option.getD_some, hi, if_true]
  rev := by
    simp only [getRev, getMark, Mark.key, Value.getD, Value.get?_put_self, Option.getD_some, hr, if_true]
  deleted := by
    simp only [isDeleted, Value.getD, Value.get?_put_of_ne (by decide : "_deleted" ≠ "_rev"),
      Value.get?_put_of_ne (by decide : "_deleted" ≠ "_id")]
  entries := ⟨es, _, rfl, rfl, fun k h₁ h₂ => by
    rw [Value.get?_put_of_ne h₂, Value.get?_put_of_ne h₁]⟩

theorem remarked_record {s₀ s : Schema} {fs : List (String × Value)} (hfit : fitsFields s.fields fs)
    (i r d i' r' : Value) :
    Remarked (.model s₀) (.record s fs i r d []) i' r' (.record s fs i' r' d []) where
  id := Record.readMark_plain s fs [] .id i' (tableEntry_reserved hfit (by decide))
    (tableEntry_reserved hfit (by decide)) rfl
  rev := Record.readMark_plain s fs [] .rev r' (tableEntry_reserved hfit (by decide))
    (tableEntry_reserved hfit (by decide)) rfl
  deleted := rfl
  entries := by
    have hmodel : ∀ v, (model s₀).toEnvelope v = (model s).toEnvelope v := fun _ => rfl
    refine ⟨_, _, (hmodel _).trans (toEnvelope_record hfit i r d),
      (hmodel _).trans (toEnvelope_record hfit i' r' d), fun k h₁ h₂ => ?_⟩
    exact get?_markEntries_of_ne h₁ h₂ i r i' r' d _

end Adapter

namespace Database

open Adapter

theorem writeBack_dict {db : Database} (hdb : db.adapter = .envelope) (es : List (Value × Value))
    (c : Created) :
    db.writeBack (.dict es) c = .ok (.dict (Value.put (Value.put es "_id" c.id) "_rev" c.rev)) := by
  rw [writeBack, hdb]
  rfl

theorem writeBack_record {db : Database} {s₀ s : Schema} (hdb : db.adapter = .model s₀)
    {fs : List (String × Value)} (hfit : fitsFields s.fields fs) (i r d : Value) (c : Created) :
    db.writeBack (.record s fs i r d []) c = .ok (.record s fs c.id c.rev d []) := by
  have hset : tableEntry fs "__pydantic_setattr_handlers__" = none :=
    tableEntry_reserved hfit (by decide)
  -- a record with no private store takes each mark in place
  have hid : db.adapter.setId (.record s fs i r d []) c.id = .ok (.record s fs c.id r d []) := by
    simp only [hdb, setId, setMark, setMarkIn, setModelMark, Record.assignable, hset]
    rfl
  have hrev : db.adapter.setRev (.record s fs c.id r d []) c.rev =
      .ok (.record s fs c.id c.rev d []) := by
    simp only [hdb, setRev, setMark, setMarkIn, setModelMark, Record.assignable, hset]
    rfl
  rw [writeBack, hid]
  exact hrev

theorem writeBack_remarks {db : Database} {doc : Value} (hw : db.adapter.Writable doc)
    (c : Created) (hi : c.id.truthy = true) (hr : c.rev.truthy = true) :
    ∃ d', db.writeBack doc c = .ok d' ∧ Remarked db.adapter doc c.id c.rev d' ∧
      db.adapter.Writable d' := by
  obtain ⟨hplain, env, henv⟩ := hw
  cases hdb : db.adapter with
  | envelope =>
    rw [hdb] at henv
    cases doc with
    | dict es => exact ⟨_, writeBack_dict hdb es c, remarked_dict hi hr, rfl, _, rfl⟩
    | _ => cases henv
  | model s₀ =>
    rw [hdb] at henv hplain
    cases doc with
    | record s fs i r d ss =>
      simp only [plainDocument, Bool.and_eq_true, List.isEmpty_iff] at hplain
      obtain ⟨hfit, rfl⟩ := hplain
      have hmarks : Remarked (.model s₀) (.record s fs i r d []) c.id c.rev
          (.record s fs c.id c.rev d []) := remarked_record hfit i r d c.id c.rev
      obtain ⟨-, env', -, henv', -⟩ := hmarks.entries
      refine ⟨_, writeBack_record hdb hfit i r d c, hmarks, ?_, env', henv'⟩
      simp [plainDocument, hfit]
    | _ => cases henv

theorem created_truthy {reply op : Value} {c : Created} (h : Created.ofReply reply op = .ok c) :
    c.id.truthy = true ∧ c.rev.truthy = true := by
  unfold Created.ofReply at h
  split at h
  · dsimp only at h
    split at h
    · rename_i hmarks
      cases h
      simpa [Bool.and_eq_true] using hmarks
    · cases h
  · cases h

theorem save_ok_inv {db : Database} {doc d : Value} {depth : Nat} {s s' : Session}
    (h : (db.save doc depth).run.run s = (.ok d, s')) :
    ∃ env docId method p body reply c, db.adapter.toEnvelope doc = .ok env ∧
      db.adapter.getId doc = .ok docId ∧
      (requestOk (depth + 1) (.str "save") docId method p [] body).run.run s = (.ok reply, s') ∧
      Created.ofReply reply (.str "save") = .ok c ∧ db.writeBack doc c = .ok d := by
  unfold save at h
  obtain ⟨env, s₁, hrun, h⟩ := run_bind_ok h
  obtain ⟨henv, rfl⟩ := lift_run_ok hrun
  obtain ⟨docId, s₂, hrun, h⟩ := run_bind_ok h
  obtain ⟨hid, rfl⟩ := lift_run_ok hrun
  -- a truthy id is saved with a PUT under it, else with a POST; the rest is the same
  split at h <;>
  · obtain ⟨p, s₃, hp, h⟩ := run_bind_ok h
    obtain ⟨-, rfl⟩ := lift_run_ok hp
    obtain ⟨mp, s₄, hpure, h⟩ := run_bind_ok h
    cases hpure
    dsimp only at h
    obtain ⟨body, s₅, hbody, h⟩ := run_bind_ok h
    obtain ⟨-, rfl⟩ := lift_run_ok hbody
    obtain ⟨reply, s₆, hreply, h⟩ := run_bind_ok h
    obtain ⟨c, s₇, hrun, h⟩ := run_bind_ok h
    obtain ⟨hc, rfl⟩ := lift_run_ok hrun
    obtain ⟨hwb, rfl⟩ := lift_run_ok h
    exact ⟨env, docId, _, p, body, reply, c, henv, hid, hreply, hc, hwb⟩

theorem create_ok_inv {db : Database} {doc d : Value} {c : Created} {s s' : Session}
    (h : (db.create doc).run.run s = (.ok (c, d), s')) :
    ∃ env docId p body reply, db.adapter.toEnvelope doc = .ok env ∧
      db.adapter.getId doc = .ok docId ∧
      (requestOk 2 (.str "create") docId "POST" p [] body).run.run s = (.ok reply, s') ∧
      Created.ofReply reply (.str "create") = .ok c ∧ db.writeBack doc c = .ok d := by
  unfold create at h
  obtain ⟨env, s₁, hrun, h⟩ := run_bind_ok h
  obtain ⟨henv, rfl⟩ := lift_run_ok hrun
  obtain ⟨docId, s₂, hrun, h⟩ := run_bind_ok h
  obtain ⟨hid, rfl⟩ := lift_run_ok hrun
  obtain ⟨p, s₃, hp, h⟩ := run_bind_ok h
  obtain ⟨-, rfl⟩ := lift_run_ok hp
  obtain ⟨body, s₄, hbody, h⟩ := run_bind_ok h
  obtain ⟨-, rfl⟩ := lift_run_ok hbody
  obtain ⟨reply, s₅, hreply, h⟩ := run_bind_ok h
  obtain ⟨c', s₆, hrun, h⟩ := run_bind_ok h
  obtain ⟨hc, rfl⟩ := lift_run_ok hrun
  obtain ⟨d', s₇, hrun, h⟩ := run_bind_ok h
  obtain ⟨hwb, rfl⟩ := lift_run_ok hrun
  cases h
  exact ⟨env, docId, p, body, reply, henv, hid, hreply, hc, hwb⟩

/-- After the outcomes `os` of the places `ps`, the last successful write wins. -/
def LastWriteWins (a : Adapter) (ps : List Nat) (os : List WriteOutcome) (b b' : Batch) : Prop :=
  ∀ (k : Nat) (d : Value), b.documents[k]? = some d →
    ((∀ (i : Nat) (o : WriteOutcome), ps[i]? = some k → os[i]? = some o → o.ok = false) →
      b'.documents[k]? = some d) ∧
    (∀ (i : Nat) (o : WriteOutcome), ps[i]? = some k → os[i]? = some o → o.ok = true →
      (∀ (j : Nat) (o' : WriteOutcome), i < j → ps[j]? = some k → os[j]? = some o' →
        o'.ok = false) →
      ∃ d', b'.documents[k]? = some d' ∧ o.id.truthy = true ∧ o.rev.truthy = true ∧
        Remarked a d o.id o.rev d')

namespace LastWriteWins

variable {a : Adapter} {ps : List Nat} {os : List WriteOutcome} {b b' : Batch}

theorem of_failed (h : ∀ o ∈ os, o.ok = false) : LastWriteWins a ps os b b := by
  intro k d hd
  refine ⟨fun _ => hd, fun i o _ ho hok _ => ?_⟩
  rw [h o (List.mem_of_getElem? ho)] at hok
  cases hok

theorem failed_after_tail {p : Nat} {o : WriteOutcome} {k i : Nat}
    (h : ∀ (j : Nat) (o' : WriteOutcome), i + 1 < j → (p :: ps)[j]? = some k →
      (o :: os)[j]? = some o' → o'.ok = false) :
    ∀ (j : Nat) (o' : WriteOutcome), i < j → ps[j]? = some k → os[j]? = some o' →
      o'.ok = false :=
  fun j o' hij hp ho => h (j + 1) o' (by omega) hp ho

theorem cons_failed {p : Nat} {o : WriteOutcome} (ho : o.ok = false)
    (h : LastWriteWins a ps os b b') : LastWriteWins a (p :: ps) (o :: os) b b' := by
  intro k d hd
  obtain ⟨hnone, hsome⟩ := h k d hd
  refine ⟨fun hall => hnone fun i o' hp ho' => hall (i + 1) o' hp ho',
    fun i o' hp ho' hok hlast => ?_⟩
  cases i with
  | zero =>
    obtain rfl := Option.some.inj ho'
    rw [ho] at hok
    cases hok
  | succ i =>
    exact hsome i o' hp ho' hok (failed_after_tail hlast)

theorem cons_written {k₀ : Nat} {o : WriteOutcome} {d₀ d₁ : Value} (ho : o.ok = true)
    (hid : o.id.truthy = true) (hrev : o.rev.truthy = true) (hd₀ : b.documents[k₀]? = some d₀)
    (hm : Remarked a d₀ o.id o.rev d₁) (h : LastWriteWins a ps os (b.setDocument k₀ d₁) b') :
    LastWriteWins a (k₀ :: ps) (o :: os) b b' := by
  intro k d hd
  by_cases hk : k = k₀
  · subst hk
    rw [hd₀] at hd
    cases hd
    have hd₁ : (b.setDocument k d₁).documents[k]? = some d₁ := by
      have hlt : k < b.documents.length := (List.getElem?_eq_some_iff.mp hd₀).1
      simp [Batch.setDocument, hlt]
    obtain ⟨hnone, hsome⟩ := h k d₁ hd₁
    refine ⟨fun hall => ?_, fun i o' hp ho' hok hlast => ?_⟩
    · -- the first place holds the document and succeeded
      have := hall 0 o rfl rfl
      rw [ho] at this
      cases this
    · cases i with
      | zero =>
        obtain rfl := Option.some.inj ho'
        exact ⟨d₁, hnone fun j o'' hp' ho'' => hlast (j + 1) o'' (by omega) hp' ho'', hid, hrev, hm⟩
      | succ i =>
        obtain ⟨d', hd', hi', hr', hm'⟩ := hsome i o' hp ho' hok (failed_after_tail hlast)
        exact ⟨d', hd', hi', hr', hm.trans hm'⟩
  · have hd' : (b.setDocument k₀ d₁).documents[k]? = some d := by
      simp [Batch.setDocument, Ne.symm hk, hd]
    obtain ⟨hnone, hsome⟩ := h k d hd'
    refine ⟨fun hall => hnone fun i o' hp ho' => hall (i + 1) o' hp ho',
      fun i o' hp ho' hok hlast => ?_⟩
    cases i with
    | zero => exact absurd (Option.some.inj hp) (Ne.symm hk)
    | succ i =>
      exact hsome i o' hp ho' hok (failed_after_tail hlast)

end LastWriteWins

theorem not_writable_null (a : Adapter) : ¬ a.Writable .null := by
  rintro ⟨-, env, h⟩
  cases a <;> cases h

theorem getElem?_of_writable {a : Adapter} {b : Batch} {k : Nat}
    (hw : a.Writable (b.documents.getD k .null)) :
    b.documents[k]? = some (b.documents.getD k .null) := by
  rw [List.getD_eq_getElem?_getD] at hw ⊢
  cases h : b.documents[k]? with
  | none =>
    rw [h] at hw
    exact absurd hw (not_writable_null a)
  | some d => rfl

theorem writable_setDocument {a : Adapter} {b : Batch} {k k' : Nat} {d : Value}
    (hd : a.Writable d) (hw : a.Writable (b.documents.getD k' .null)) :
    a.Writable ((b.setDocument k d).documents.getD k' .null) := by
  simp only [Batch.setDocument, List.getD_eq_getElem?_getD, List.getElem?_set]
  split
  · split
    · exact hd
    · -- a place past the end holds no document
      rename_i heq hlt
      subst heq
      simpa [List.getD_eq_getElem?_getD, List.getElem?_eq_none (Nat.le_of_not_lt hlt)] using hw
  · simpa [List.getD_eq_getElem?_getD] using hw

theorem eq_record_of_toEnvelope {s₀ : Schema} {v : Value} {env : List (Value × Value)}
    (h : (Adapter.model s₀).toEnvelope v = .ok env) : ∃ s fs i r d ss, v = .record s fs i r d ss := by
  cases v with
  | record s fs i r d ss => exact ⟨s, fs, i, r, d, ss, rfl⟩
  | updateMode u =>
    -- a member of the enumeration may give marks, but it has no fields to dump
    simp only [Adapter.toEnvelope, Adapter.modelMark, bind, Except.bind] at h
    repeat' (first | split at h | cases h)
  | _ => simp [Adapter.toEnvelope, Adapter.modelMark, bind, Except.bind] at h

theorem writable_of_view {a : Adapter} {b : Batch} {k : Nat} {env : List (Value × Value)}
    (hplain : a.plainDocument (b.documents.getD k .null) = true)
    (henv : a.toEnvelope (b.view k) = .ok env) : a.Writable (b.documents.getD k .null) := by
  refine ⟨hplain, ?_⟩
  cases a with
  | envelope =>
    obtain ⟨es, hes⟩ : ∃ es, b.view k = .dict es := by
      cases hv : b.view k <;> rw [hv] at henv <;> first | exact ⟨_, rfl⟩ | cases henv
    obtain ⟨es', hown⟩ := Batch.view_eq_dict hes
    exact ⟨es', by rw [hown]; rfl⟩
  | model s₀ =>
    obtain ⟨s, fs, i, r, d, ss, hv⟩ := eq_record_of_toEnvelope henv
    obtain ⟨fs', hown⟩ := Batch.view_eq_record hv
    rw [hown] at hplain ⊢
    simp only [plainDocument, Bool.and_eq_true, List.isEmpty_iff] at hplain
    obtain ⟨hfit, rfl⟩ := hplain
    exact ⟨_, toEnvelope_record hfit i r d⟩

theorem ofEntry_ok_truthy {e : Value} (h : (WriteOutcome.ofEntry e).ok = true) :
    (WriteOutcome.ofEntry e).id.truthy = true ∧ (WriteOutcome.ofEntry e).rev.truthy = true := by
  obtain ⟨es, rfl, herr, hid, hrev⟩ := (WriteOutcome.ofEntry_ok_iff e).mp h
  simp [WriteOutcome.ofEntry, herr, hid, hrev]

theorem place_writes_back (db : Database) :
    ∀ (enc : List Encoded) (ps : List Nat) (es : List Value) (outs : List WriteOutcome) (b : Batch),
      enc.length = ps.length →
      (∀ (i k : Nat) (env : List (Value × Value)), enc[i]? = some (.inr (k, env)) →
        ps[i]? = some k ∧ db.adapter.Writable (b.documents.getD k .null)) →
      (∀ o, .inl o ∈ enc → o.ok = false) →
      enc.countP Sum.isRight ≤ es.length →
      ∃ b', submit.place db enc es outs b = .ok (outs.reverse ++ mergeEntries enc es, b') ∧
        b'.places = b.places ∧ b'.holds = b.holds ∧ LastWriteWins db.adapter ps (mergeEntries enc es) b b'
  | [], ps, es, outs, b, _, _, _, _ => by
    refine ⟨b, by simp [submit.place, mergeEntries], rfl, rfl, LastWriteWins.of_failed ?_⟩
    simp [mergeEntries]
  | .inl o :: rest, p :: ps, es, outs, b, hlen, hsent, hset, hcount => by
    obtain ⟨b', hrun, hplaces, hholds, hlww⟩ := place_writes_back db rest ps es (o :: outs) b
      (by simpa using hlen) (fun i k env h => hsent (i + 1) k env h)
      (fun o' h => hset o' (List.mem_cons_of_mem _ h)) (by simpa [List.countP_cons] using hcount)
    refine ⟨b', ?_, hplaces, hholds, hlww.cons_failed (hset o List.mem_cons_self)⟩
    rw [submit.place, hrun]
    simp [mergeEntries]
  | .inr (k, env) :: rest, p :: ps, e :: es, outs, b, hlen, hsent, hset, hcount => by
    obtain ⟨hp, hw⟩ := hsent 0 k env rfl
    obtain rfl : p = k := Option.some.inj hp
    have hlen' : rest.length = ps.length := by simpa using hlen
    have hset' : ∀ o, .inl o ∈ rest → o.ok = false := fun o h => hset o (List.mem_cons_of_mem _ h)
    have hcount' : rest.countP Sum.isRight ≤ es.length := by
      simpa [List.countP_cons] using hcount
    by_cases hok : (WriteOutcome.ofEntry e).ok = true
    · -- a success writes its marks into the document at the place
      obtain ⟨hid, hrev⟩ := ofEntry_ok_truthy hok
      obtain ⟨d₁, hwb, hm, hw₁⟩ :=
        writeBack_remarks hw ⟨(WriteOutcome.ofEntry e).id, (WriteOutcome.ofEntry e).rev⟩ hid hrev
      obtain ⟨b', hrun, hplaces, hholds, hlww⟩ := place_writes_back db rest ps es
        (WriteOutcome.ofEntry e :: outs) (b.setDocument p d₁) hlen'
        (fun i k' env' h => ⟨(hsent (i + 1) k' env' h).1,
          writable_setDocument hw₁ (hsent (i + 1) k' env' h).2⟩) hset' hcount'
      refine ⟨b', ?_, hplaces, hholds, hlww.cons_written hok hid hrev (getElem?_of_writable hw) hm⟩
      rw [submit.place]
      simp only [hok, if_true, hwb, hrun]
      simp [mergeEntries]
    · have hfail : (WriteOutcome.ofEntry e).ok = false := Bool.eq_false_iff.mpr hok
      obtain ⟨b', hrun, hplaces, hholds, hlww⟩ := place_writes_back db rest ps es
        (WriteOutcome.ofEntry e :: outs) b hlen' (fun i k env h => hsent (i + 1) k env h) hset' hcount'
      refine ⟨b', ?_, hplaces, hholds, hlww.cons_failed hfail⟩
      rw [submit.place]
      simp only [hfail, Bool.false_eq_true, if_false, hrun]
      simp [mergeEntries]
  | .inr _ :: rest, _ :: _, [], _, _, _, _, _, hcount => by simp [List.countP_cons] at hcount
  | _ :: _, [], _, _, _, hlen, _, _, _ => by simp at hlen

theorem mem_mergeEntries_nil {o : WriteOutcome} :
    ∀ {enc : List Encoded}, o ∈ mergeEntries enc [] → .inl o ∈ enc
  | [], h => by simp [mergeEntries] at h
  | .inl o' :: rest, h => by
    rcases List.mem_cons.mp h with rfl | h
    · exact List.mem_cons_self
    · exact List.mem_cons_of_mem _ (mem_mergeEntries_nil h)
  | .inr _ :: _, h => by simp [mergeEntries] at h

theorem plainDocument_getD {a : Adapter} {docs : List Value}
    (hplain : ∀ d ∈ docs, a.plainDocument d = true) (k : Nat) :
    a.plainDocument (docs.getD k .null) = true := by
  rw [List.getD_eq_getElem?_getD]
  cases h : docs[k]? with
  | none => cases a <;> rfl
  | some d => exact hplain d (List.mem_of_getElem? h)

theorem submit_writes_back {db : Database} {b : Batch} {depth : Nat} {s s' : Session}
    (hplain : ∀ d ∈ b.documents, db.adapter.plainDocument d = true) :
    (∀ outs b', (db.submit b depth).run.run s = (.ok (outs, b'), s') →
      b'.places = b.places ∧ b'.holds = b.holds ∧ LastWriteWins db.adapter b.places outs b b') ∧
    (∀ e b', (db.submit b depth).run.run s = (.error (e, b'), s') → b' = b) := by
  let encoded := b.places.map fun k => db.placeEntry depth k (b.view k)
  -- a place sent holds a document that can take marks; a place set aside failed
  have hsent : ∀ (i k : Nat) (env : List (Value × Value)), encoded[i]? = some (.inr (k, env)) →
      b.places[i]? = some k ∧ db.adapter.Writable (b.documents.getD k .null) := by
    intro i k env h
    rw [List.getElem?_map] at h
    obtain ⟨k', hk', he⟩ := Option.map_eq_some_iff.mp h
    unfold placeEntry at he
    split at he
    · rename_i env' henc
      cases he
      exact ⟨hk', writable_of_view (plainDocument_getD hplain k) (encodeForBatch_envelope henc)⟩
    · cases he
  have hset : ∀ o, .inl o ∈ encoded → o.ok = false := by
    intro o h
    obtain ⟨k, -, he⟩ := List.mem_map.mp h
    unfold placeEntry at he
    split at he
    · cases he
    · cases he
      rfl
  have hcount := countP_sent_eq db depth b
  refine ⟨fun outs b' h => ?_, fun e b' h => ?_⟩
  · rcases submit_ok_stages h with ⟨-, ⟨-, -, rfl, houts⟩ | ⟨-, p, body, entries, -, -, -, hlen, hplace⟩⟩
    · -- nothing was sent: every outcome is one set aside
      refine ⟨rfl, rfl, LastWriteWins.of_failed fun o ho => hset o (mem_mergeEntries_nil ?_)⟩
      rw [← houts]
      exact ho
    · obtain ⟨b'', hrun, hplaces, hholds, hlww⟩ := place_writes_back db encoded b.places entries [] b
        (List.length_map _) hsent hset (Nat.le_of_eq (hcount.trans hlen.symm))
      rw [hplace] at hrun
      obtain ⟨rfl, rfl⟩ := Prod.mk.inj (Except.ok.inj hrun)
      exact ⟨hplaces, hholds, hlww⟩
  · rcases submit_error_inv h with ⟨-, rfl, -⟩ | ⟨-, -, ⟨rfl, -⟩ | ⟨entries, -, hlen, hplace⟩⟩
    · rfl
    · rfl
    · -- pairing the entries with the places never fails
      obtain ⟨b'', hrun, -⟩ := place_writes_back db encoded b.places entries [] b
        (List.length_map _) hsent hset (Nat.le_of_eq (by rw [hcount, hlen, List.length_map]))
      rw [hplace] at hrun
      cases hrun

/-- A write leaves the reported id and revision in what it wrote, the last write winning. -/
theorem write_back_sets_reported_marks (db : Database) :
    (∀ (doc d : Value) (depth : Nat) (s s' : Session), db.adapter.plainDocument doc = true →
      (db.save doc depth).run.run s = (.ok d, s') →
      ∃ docId method p body reply c,
        (requestOk (depth + 1) (.str "save") docId method p [] body).run.run s = (.ok reply, s') ∧
        Created.ofReply reply (.str "save") = .ok c ∧ c.id.truthy = true ∧ c.rev.truthy = true ∧
        Remarked db.adapter doc c.id c.rev d) ∧
    (∀ (doc d : Value) (c : Created) (s s' : Session), db.adapter.plainDocument doc = true →
      (db.create doc).run.run s = (.ok (c, d), s') →
      ∃ docId p body reply,
        (requestOk 2 (.str "create") docId "POST" p [] body).run.run s = (.ok reply, s') ∧
        Created.ofReply reply (.str "create") = .ok c ∧ c.id.truthy = true ∧
        c.rev.truthy = true ∧ Remarked db.adapter doc c.id c.rev d) ∧
    (∀ (doc : Value) (c : Created), db.adapter.Writable doc → c.id.truthy = true →
      c.rev.truthy = true → ∃ d, db.writeBack doc c = .ok d ∧ Remarked db.adapter doc c.id c.rev d) ∧
    (∀ (b : Batch) (depth : Nat) (s s' : Session),
      (∀ d ∈ b.documents, db.adapter.plainDocument d = true) →
      (∀ outs b', (db.submit b depth).run.run s = (.ok (outs, b'), s') →
        b'.places = b.places ∧ b'.holds = b.holds ∧ LastWriteWins db.adapter b.places outs b b') ∧
      (∀ e b', (db.submit b depth).run.run s = (.error (e, b'), s') → b' = b)) := by
  refine ⟨fun doc d depth s s' hplain h => ?_, fun doc d c s s' hplain h => ?_,
    fun doc c hw hi hr => ?_, fun b depth s s' hplain => submit_writes_back hplain⟩
  · obtain ⟨env, docId, method, p, body, reply, c, henv, -, hreq, hc, hwb⟩ := save_ok_inv h
    obtain ⟨hi, hr⟩ := created_truthy hc
    obtain ⟨d', hwb', hm, -⟩ := writeBack_remarks ⟨hplain, env, henv⟩ c hi hr
    rw [hwb] at hwb'
    cases hwb'
    exact ⟨docId, method, p, body, reply, c, hreq, hc, hi, hr, hm⟩
  · obtain ⟨env, docId, p, body, reply, henv, -, hreq, hc, hwb⟩ := create_ok_inv h
    obtain ⟨hi, hr⟩ := created_truthy hc
    obtain ⟨d', hwb', hm, -⟩ := writeBack_remarks ⟨hplain, env, henv⟩ c hi hr
    rw [hwb] at hwb'
    cases hwb'
    exact ⟨docId, p, body, reply, hreq, hc, hi, hr, hm⟩
  · obtain ⟨d, hwb, hm, -⟩ := writeBack_remarks hw c hi hr
    exact ⟨d, hwb, hm⟩

/-- One raw document listed twice, both places accepted. -/
theorem write_back_sets_reported_marks_listed_twice :
    let db : Database := ⟨"users", .envelope⟩
    let b : Batch := { documents := [.dict [(.str "_id", .str "a"), (.str "v", .int 1)]], places := [0, 0] }
    let body := "[\x7b\"ok\":true,\"id\":\"a\",\"rev\":\"1-a\"\x7d," ++
      "\x7b\"ok\":true,\"id\":\"a\",\"rev\":\"2-a\"\x7d]"
    let s : Session := { base := { scheme := "http", host := "couch.test", path := "/" },
                         authorization := none, stem := .str "",
                         script := [.reply ⟨201, [.bytes body.toUTF8.toList]⟩] }
    (∀ d ∈ b.documents, db.adapter.plainDocument d = true) ∧
      ∃ outs b' s', (db.submit b 1).run.run s = (.ok (outs, b'), s') ∧
        b'.places = b.places ∧ b'.holds = b.holds ∧ LastWriteWins db.adapter b.places outs b b' := by
  intro db b body s
  have hplain : ∀ d ∈ b.documents, db.adapter.plainDocument d = true := fun _ _ => rfl
  -- the submission returns: checked by evaluating it, then read off as an equation
  have hok : ((db.submit b 1).run.run s).1.isOk = true := by decide +kernel
  obtain ⟨⟨outs, b'⟩, hrun⟩ := run_eq_ok_of_isOk hok
  exact ⟨hplain, outs, b', _, hrun,
    ((write_back_sets_reported_marks db).2.2.2 b 1 s _ hplain).1 outs b' hrun⟩

/-- Marks written into one document show at its other places and inside its holder. -/
theorem write_back_reaches_other_places :
    let db : Database := ⟨"users", .envelope⟩
    let s₀ : Session := { base := { scheme := "http", host := "couch.test", path := "/" },
                          authorization := none, stem := .str "", script := [] }
    let session := fun (body : String) => { s₀ with script := [.reply ⟨201, [.bytes body.toUTF8.toList]⟩] }
    let twice : Batch := { documents := [.dict [(.str "_id", .str "a"), (.str "v", .int 1)]], places := [0, 0] }
    let conflict := "[\x7b\"ok\":true,\"id\":\"a\",\"rev\":\"1-a\"\x7d," ++
      "\x7b\"id\":\"a\",\"error\":\"conflict\",\"reason\":\"Document update conflict.\"\x7d]"
    let revs := fun (b : Batch) => b.atPlaces.map fun v =>
      (db.adapter.getRev v).toOption.map (Value.eq (.str "1-a"))
    let res := ((db.submit twice 1).run.run (session conflict)).1
    let child : Value := .dict [(.str "_id", .str "b")]
    let nested : Batch := { documents := [child, .dict [(.str "_id", .str "a"), (.str "child", child)]]
                            places := [1, 0]
                            holds := [⟨1, .entry "child", [], 0, by decide⟩] }
    let accepted := "[\x7b\"ok\":true,\"id\":\"a\",\"rev\":\"1-a\"\x7d," ++
      "\x7b\"ok\":true,\"id\":\"b\",\"rev\":\"1-b\"\x7d]"
    let after : Value := .dict [(.str "_id", .str "a"),
      (.str "child", .dict [(.str "_id", .str "b"), (.str "_rev", .str "1-b")]), (.str "_rev", .str "1-a")]
    (res.toOption.map (fun r => r.1.map WriteOutcome.ok) = some [true, false] ∧
      revs twice = [some false, some false] ∧
      res.toOption.map (fun r => revs r.2) = some [some true, some true]) ∧
    ((db.submit nested 1).run.run (session accepted)).1.toOption.map (fun r => (r.2.view 1).eq after) =
      some true := by
  decide +kernel

end Database

end DocClient
