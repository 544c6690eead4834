import DocClient.Document.Adapter
import DocClient.Proofs.Query.RoundTrip
/-!
# Typed documents through their envelopes

A document as its schema makes it reads back from its envelope as itself
(`fromEnvelope_toEnvelope`).
-/
namespace DocClient

namespace Value

/-- Whether a value is a text. -/
def isStr : Value → Bool
  | .str _ => true
  | _ => false

/-- Whether a value is a boolean. -/
def isBool : Value → Bool
  | .bool _ => true
  | _ => false

/-- Whether a value is null or a non-empty text, as the id and revision of a document are. -/
def isIdentity : Value → Bool
  | .null => true
  | .str t => !t.isEmpty
  | _ => false

mutual

/-- Whether a value is plain JSON. -/
def isJson : Value → Bool
  | .null | .bool _ | .int _ | .str _ => true
  | .float x => x.isFinite
  | .list xs => isJsonList xs
  | .dict es => isJsonEntries es
  | _ => false

def isJsonList : List Value → Bool
  | [] => true
  | x :: xs => x.isJson && isJsonList xs

def isJsonEntries : List (Value × Value) → Bool
  | [] => true
  | (k, v) :: rest => k.isStr && v.isJson && isJsonEntries rest

end

theorem isJsonList_of_all_isStr : ∀ {xs : List Value}, xs.all isStr → isJsonList xs
  | [], _ => rfl
  | .str _ :: xs, h => by
    simp only [List.all_cons, isStr, Bool.true_and] at h
    simp [isJsonList, isJson, isJsonList_of_all_isStr h]
  | .null :: _, h | .bool _ :: _, h | .int _ :: _, h | .float _ :: _, h | .list _ :: _, h
  | .tuple _ :: _, h | .set _ :: _, h | .dict _ :: _, h | .record .. :: _, h
  | .updateMode _ :: _, h => by simp [isStr] at h

mutual

theorem jsonForm_of_isJson : ∀ v : Value, v.isJson → v.jsonForm = v
  | .null, _ | .bool _, _ | .int _, _ | .str _, _ => by simp [jsonForm]
  | .float x, h => by simp_all [isJson, jsonForm]
  | .list xs, h => by
    rw [jsonForm, jsonFormList_of_isJsonList xs h]
  | .dict es, h => by
    rw [jsonForm, jsonFormEntries_of_isJsonEntries es h]
  | .tuple _, h | .set _, h | .record .., h | .updateMode _, h => by simp [isJson] at h

theorem jsonFormList_of_isJsonList : ∀ xs : List Value, isJsonList xs → jsonFormList xs = xs
  | [], _ => by simp [jsonFormList]
  | x :: xs, h => by
    simp only [isJsonList, Bool.and_eq_true] at h
    rw [jsonFormList, jsonForm_of_isJson x h.1, jsonFormList_of_isJsonList xs h.2]

theorem jsonFormEntries_of_isJsonEntries :
    ∀ es : List (Value × Value), isJsonEntries es → jsonFormEntries es = es
  | [], _ => by simp [jsonFormEntries]
  | (k, v) :: rest, h => by
    simp only [isJsonEntries, Bool.and_eq_true] at h
    obtain ⟨⟨hk, hv⟩, hrest⟩ := h
    have hk' : k.jsonForm = k := by
      cases k <;> simp_all [isStr, jsonForm]
    rw [jsonFormEntries, hk', jsonForm_of_isJson v hv, jsonFormEntries_of_isJsonEntries rest hrest]

end

theorem mem_of_lookup {k v : Value} :
    ∀ {es : List (Value × Value)}, lookup k es = some v → ∃ k', (k', v) ∈ es
  | [], h => by cases h
  | (k', w) :: es, h => by
    simp only [lookup] at h
    split at h
    · cases h
      exact ⟨k', List.mem_cons_self ..⟩
    · obtain ⟨k'', hm⟩ := mem_of_lookup h
      exact ⟨k'', List.mem_cons_of_mem _ hm⟩

theorem isJson_of_mem_entries :
    ∀ {es : List (Value × Value)}, isJsonEntries es → ∀ {k v}, (k, v) ∈ es → v.isJson
  | [], _, _, _, hm => by cases hm
  | (k', v') :: es, h, k, v, hm => by
    simp only [isJsonEntries, Bool.and_eq_true] at h
    rcases List.mem_cons.mp hm with heq | hm
    · cases heq
      exact h.1.2
    · exact isJson_of_mem_entries h.2 hm

end Value

/-- Whether a value is in the form validation leaves a field of this type in. -/
def FieldType.holds : FieldType → Value → Bool
  | .text, v => v.isStr
  | .integer, .int _ => true
  | .optionalNumber, .null => true
  | .optionalNumber, .float _ => true
  | .textList, .list xs => xs.all Value.isStr
  | .object, .dict es => Value.isJsonEntries es
  | _, _ => false

/-- Whether a record's table holds the given fields in order, each validated. -/
def fitsFields : List Field → List (String × Value) → Bool
  | [], [] => true
  | f :: fields, e :: rest => e.1 == f.name && f.type.holds e.2 && fitsFields fields rest
  | _, _ => false


/-! ### One field -/

section Except

variable {ε ε' α β : Type}

@[simp] theorem Except.mapError_ok (f : ε → ε') (a : α) :
    (Except.ok a : Except ε α).mapError f = .ok a := rfl

theorem Except.mapError_eq_ok {f : ε → ε'} {e : Except ε α} {a : α} :
    e.mapError f = .ok a ↔ e = .ok a := by
  cases e with
  | error k => exact ⟨fun h => (by cases h), fun h => (by cases h)⟩
  | ok a' => exact ⟨fun h => congrArg Except.ok (Except.ok.inj h),
      fun h => congrArg Except.ok (Except.ok.inj h)⟩

theorem Except.mapError_eq_error {f : ε → ε'} {e : Except ε α} {b : ε'} :
    e.mapError f = .error b ↔ ∃ k, e = .error k ∧ f k = b := by
  cases e with
  | error k =>
    exact ⟨fun h => ⟨k, rfl, Except.error.inj h⟩, fun ⟨k', h, hk⟩ => (by cases h; cases hk; rfl)⟩
  | ok a => exact ⟨fun h => (by cases h), fun ⟨k, h, _⟩ => (by cases h)⟩

theorem Except.map_eq_ok {f : α → β} {e : Except ε α} {b : β} :
    e.map f = .ok b ↔ ∃ a, e = .ok a ∧ f a = b := by
  cases e <;> simp [Except.map]

theorem mapM_mapError_ok {g : α → Except ε β} {h : ε → ε'} :
    ∀ {l : List α}, (∀ x ∈ l, ∃ y, g x = .ok y) →
      l.mapM (fun x => (g x).mapError h) = .ok (l.filterMap fun x => (g x).toOption)
  | [], _ => rfl
  | x :: l, hl => by
    obtain ⟨y, hy⟩ := hl x (List.mem_cons_self ..)
    rw [List.mapM_cons, hy, mapM_mapError_ok fun z hz => hl z (List.mem_cons_of_mem _ hz)]
    simp [hy, Except.toOption]
    rfl

end Except

namespace Lax

theorem text_ok {v w : Value} (h : text v = .ok w) : ∃ s, w = .str s := by
  cases v <;> simp only [text, reduceCtorEq] at h
  all_goals exact ⟨_, (Except.ok.inj h).symm⟩

theorem integer_ok {v w : Value} (h : integer v = .ok w) : ∃ i, w = .int i := by
  cases v <;> simp only [integer, reduceCtorEq] at h
  case int i | bool b => exact ⟨_, (Except.ok.inj h).symm⟩
  case float x =>
    split at h
    · cases h
    split at h
    · cases h
    split at h
    · exact ⟨_, (Except.ok.inj h).symm⟩
    · cases h
  case str s =>
    split at h
    · obtain ⟨i, -, rfl⟩ := Except.map_eq_ok.mp h
      exact ⟨i, rfl⟩
    · cases h
  case updateMode m =>
    obtain ⟨i, -, rfl⟩ := Except.map_eq_ok.mp h
    exact ⟨i, rfl⟩

theorem numberOfChars_ok {cs : List Char} {w : Value} (h : numberOfChars cs = .ok w) :
    ∃ x, w = .float x := by
  unfold numberOfChars at h
  split at h
  · exact ⟨_, (Except.ok.inj h).symm⟩
  split at h
  · exact ⟨_, (Except.ok.inj h).symm⟩
  · cases h

theorem number_ok {v w : Value} (h : number v = .ok w) : ∃ x, w = .float x := by
  cases v <;> simp only [number, reduceCtorEq] at h
  case float x | bool b => exact ⟨_, (Except.ok.inj h).symm⟩
  case int i =>
    split at h
    · cases h
    · exact ⟨_, (Except.ok.inj h).symm⟩
  case str s =>
    split at h
    · cases h
    · exact numberOfChars_ok h
  case updateMode m => exact numberOfChars_ok h

end Lax

namespace FieldType

theorem textItems_of_all_isStr (key : String) : ∀ (i : Nat) {xs : List Value}, xs.all Value.isStr →
    textItems key i xs = (xs, [])
  | _, [], _ => rfl
  | i, x :: xs, h => by
    simp only [List.all_cons, Bool.and_eq_true] at h
    obtain ⟨hx, hxs⟩ := h
    cases x <;> simp_all [Value.isStr, textItems, Lax.text, textItems_of_all_isStr key (i + 1) hxs]

theorem textItems_isStr (key : String) : ∀ (i : Nat) (xs : List Value),
    (textItems key i xs).1.all Value.isStr
  | _, [] => rfl
  | i, x :: xs => by
    have ih := textItems_isStr key (i + 1) xs
    unfold textItems
    cases x <;> simp_all [Lax.text, Value.isStr]

theorem form_of_holds {t : FieldType} {w : Value} (h : t.holds w) :
    (if t = .optionalNumber then w.numberForm else w.jsonForm) = w := by
  cases t with
  | optionalNumber => cases w <;> simp_all [holds, Value.numberForm, Value.jsonForm]
  | textList =>
    cases w <;> simp only [holds, Bool.false_eq_true] at h
    simp [Value.jsonForm, Value.jsonFormList_of_isJsonList _ (Value.isJsonList_of_all_isStr h)]
  | object =>
    cases w <;> simp only [holds, Bool.false_eq_true] at h
    simp [Value.jsonForm, Value.jsonFormEntries_of_isJsonEntries _ h]
  | text | integer => cases w <;> simp_all [holds, Value.isStr, Value.jsonForm]

theorem check_of_holds {t : FieldType} {w : Value} (key : String) (h : t.holds w) :
    t.check key w = .ok w := by
  cases t <;> cases w <;> simp_all [holds, check, Value.isStr, Lax.text, Lax.integer, Lax.number,
    textItems_of_all_isStr]

theorem holds_of_check {t : FieldType} {key : String} {v w : Value} (h : t.check key v = .ok w)
    (hv : v.isJson) : t.holds w := by
  cases t with
  | text =>
    obtain ⟨s, rfl⟩ := Lax.text_ok (Except.mapError_eq_ok.mp h)
    rfl
  | integer =>
    obtain ⟨i, rfl⟩ := Lax.integer_ok (Except.mapError_eq_ok.mp h)
    rfl
  | optionalNumber =>
    cases v <;> simp only [check] at h
    case null =>
      cases h
      rfl
    all_goals
      obtain ⟨x, rfl⟩ := Lax.number_ok (Except.mapError_eq_ok.mp h)
      rfl
  | textList =>
    cases v <;> simp only [check, reduceCtorEq] at h
    all_goals
      split at h
      · cases h
        exact textItems_isStr key 0 _
      · cases h
  | object =>
    cases v <;> simp only [check, reduceCtorEq] at h
    cases h
    exact hv

theorem check_error_ne {t : FieldType} {key : String} {v : Value} {is : List Issue}
    (h : t.check key v = .error is) : is ≠ [] := by
  cases t with
  | text | integer =>
    obtain ⟨k, -, rfl⟩ := Except.mapError_eq_error.mp h
    simp
  | optionalNumber =>
    cases v <;> simp only [check] at h
    case null => cases h
    all_goals
      obtain ⟨k, -, rfl⟩ := Except.mapError_eq_error.mp h
      simp
  | textList =>
    cases v <;> simp only [check] at h
    case list xs | tuple xs | set xs =>
      split at h
      · cases h
      · rename_i hne
        cases h
        simpa [List.isEmpty_iff] using hne
    all_goals
      cases h
      simp
  | object =>
    cases v <;> simp only [check] at h
    case dict => cases h
    all_goals
      cases h
      simp

end FieldType

namespace Schema

/-- Whether a value is a document as the schema makes it. -/
def isDocument (s : Schema) : Value → Bool
  | .record s' fs i r d ss =>
    s' == s && fitsFields s.fields fs && i.isIdentity && r.isIdentity && d.isBool && ss.isEmpty
  | _ => false

/-! ### The schemas' own facts -/

theorem find?_name_of_nodup : ∀ {fields : List Field}, (fields.map (·.name)).Nodup →
    ∀ f ∈ fields, fields.find? (·.name = f.name) = some f
  | [], _, _, hf => absurd hf List.not_mem_nil
  | g :: gs, hnd, f, hf => by
    rw [List.map_cons, List.nodup_cons] at hnd
    rw [List.find?_cons]
    rcases List.mem_cons.mp hf with rfl | hf
    · simp
    · -- a later field's name is not the first field's
      have hne : g.name ≠ f.name := fun h => hnd.1 (h ▸ List.mem_map_of_mem hf)
      simp only [hne, decide_false]
      exact find?_name_of_nodup hnd.2 f hf

theorem find?_name (s : Schema) : ∀ f ∈ s.fields,
    (s.fields.find? (·.name = f.name)).map (fun g => (g.key, g.type)) = some (f.key, f.type) := by
  intro f hf
  rw [find?_name_of_nodup s.names_nodup f hf]
  rfl

theorem default_holds (s : Schema) :
    ∀ f ∈ s.fields, ∀ d, f.default = some d → f.type.holds d.toValue = true := by
  intro f hf d hd
  have h := s.default_admitted f hf
  rw [hd] at h
  cases ht : f.type <;> cases d <;> rw [ht] at h <;> first | rfl | cases h

end Schema

/-! ### Tables that fit a schema -/

/-- The entries a table that fits the fields is dumped as: each value under its field's key. -/
def keyedEntries (F : List Field) (fs : List (String × Value)) : List (String × Value) :=
  (F.zip fs).map fun p => (p.1.key, p.2.2)

section Fits

open FindRequest (written)

variable {F : List Field} {fs : List (String × Value)}

theorem fitsFields_names : ∀ {F : List Field} {fs : List (String × Value)}, fitsFields F fs →
    fs.map (·.1) = F.map (·.name)
  | [], [], _ => rfl
  | f :: F, e :: fs, h => by
    simp only [fitsFields, Bool.and_eq_true, beq_iff_eq] at h
    simp [h.1.1, fitsFields_names h.2]

theorem fitsFields_of_mem_zip : ∀ {F : List Field} {fs : List (String × Value)}, fitsFields F fs →
    ∀ {f e}, (f, e) ∈ F.zip fs → e.1 = f.name ∧ f.type.holds e.2
  | [], [], _, _, _, h => by cases h
  | f :: F, e :: fs, h, _, _, hm => by
    simp only [fitsFields, Bool.and_eq_true, beq_iff_eq] at h
    rcases List.mem_cons.mp hm with heq | hm
    · cases heq
      exact h.1
    · exact fitsFields_of_mem_zip h.2 hm

theorem tableEntry_of_fits (hfit : fitsFields F fs) {n : String} (hn : ∀ f ∈ F, f.name ≠ n) :
    tableEntry fs n = none := by
  unfold tableEntry
  rw [Option.map_eq_none_iff, List.find?_eq_none]
  intro e he heq
  obtain ⟨f, hf, hfe⟩ := List.mem_map.mp (fitsFields_names hfit ▸ List.mem_map_of_mem he)
  exact hn f hf (hfe.trans (of_decide_eq_true heq))

theorem tableEntry_reserved {s : Schema} (hfit : fitsFields s.fields fs) {n : String}
    (hn : (Text.ofString n).startsWith "_" = true) : tableEntry fs n = none :=
  tableEntry_of_fits hfit fun f hf he => by
    have hplain := s.name_not_reserved f hf
    rw [he, hn] at hplain
    cases hplain

theorem jsonFormFields_of_fits {s : Schema} : ∀ {F : List Field} {fs : List (String × Value)},
    (∀ f ∈ F, f ∈ s.fields) → fitsFields F fs →
    Value.jsonFormFields s fs = written (keyedEntries F fs)
  | [], [], _, _ => by simp [Value.jsonFormFields, keyedEntries]
  | f :: F, (n, v) :: fs, hF, hfit => by
    simp only [fitsFields, Bool.and_eq_true, beq_iff_eq] at hfit
    obtain ⟨⟨hname, hholds⟩, hrest⟩ := hfit
    subst hname
    have hfind := s.find?_name f (hF f (List.mem_cons_self ..))
    rcases hg : s.fields.find? (·.name = f.name) with _ | g
    · rw [hg] at hfind
      cases hfind
    · rw [hg, Option.map_some, Option.some.injEq, Prod.mk.injEq] at hfind
      obtain ⟨hkey, htype⟩ := hfind
      have ih := jsonFormFields_of_fits (fun f' hf' => hF f' (List.mem_cons_of_mem _ hf')) hrest
      simp only [Value.jsonFormFields, hg, htype, FieldType.form_of_holds hholds, hkey, ih]
      rfl

theorem get?_keyedEntries : ∀ {F : List Field} {fs : List (String × Value)},
    (F.map (·.key)).Nodup → ∀ {f e}, (f, e) ∈ F.zip fs →
    Value.get? (written (keyedEntries F fs)) f.key = some e.2
  | [], _, _, _, _, h => by cases h
  | _ :: _, [], _, _, _, h => by cases h
  | g :: F, d :: fs, hnd, f, e, hm => by
    rw [List.map_cons, List.nodup_cons] at hnd
    rcases List.mem_cons.mp hm with heq | hm
    · cases heq
      simp [Value.get?, keyedEntries, Value.lookup]
    · have hne : f.key ≠ g.key := fun he =>
        hnd.1 (he ▸ List.mem_map_of_mem (List.of_mem_zip hm).1)
      have ih := get?_keyedEntries hnd.2 hm
      simp only [Value.get?, keyedEntries, List.zip_cons_cons, List.map_cons, Value.lookup,
        Value.keyEq_str, Text.ofString_beq, beq_eq_false_iff_ne.mpr hne] at ih ⊢
      exact ih

theorem key_of_mem_keyedEntries {p : String × Value} (h : p ∈ keyedEntries F fs) :
    ∃ f ∈ F, p.1 = f.key := by
  obtain ⟨⟨f, e⟩, hm, rfl⟩ := List.mem_map.mp h
  exact ⟨f, (List.of_mem_zip hm).1, rfl⟩

end Fits


/-! ### Validation -/

section Validation

open FindRequest (written)

theorem foldl_of_fits {step : List (String × Value) × List Issue → Field →
    List (String × Value) × List Issue} :
    ∀ {F : List Field} {fs : List (String × Value)}, fitsFields F fs →
    (∀ f e, (f, e) ∈ F.zip fs → ∀ acc, step acc f = (acc.1 ++ [(f.name, e.2)], acc.2)) →
    ∀ acc, F.foldl step acc = (acc.1 ++ fs, acc.2)
  | [], [], _, _, acc => by simp
  | f :: F, (n, v) :: fs, hfit, hstep, acc => by
    simp only [fitsFields, Bool.and_eq_true, beq_iff_eq] at hfit
    obtain ⟨⟨hname, -⟩, hrest⟩ := hfit
    subst hname
    rw [List.foldl_cons, hstep f (f.name, v) (List.mem_cons_self ..),
      foldl_of_fits hrest (fun f' e' hm => hstep f' e' (List.mem_cons_of_mem _ hm))]
    simp

theorem fits_of_foldl {step : List (String × Value) × List Issue → Field →
    List (String × Value) × List Issue} :
    ∀ {F : List Field}, (∀ f ∈ F, ∀ acc,
      (∃ w, f.type.holds w ∧ step acc f = (acc.1 ++ [(f.name, w)], acc.2)) ∨
      (∃ is, is ≠ [] ∧ step acc f = (acc.1, acc.2 ++ is))) →
    ∀ acc, (F.foldl step acc).2 = [] →
      acc.2 = [] ∧ ∃ fs, fitsFields F fs ∧ (F.foldl step acc).1 = acc.1 ++ fs
  | [], _, acc, h => ⟨h, [], rfl, by simp⟩
  | f :: F, hstep, acc, h => by
    rw [List.foldl_cons] at h ⊢
    obtain ⟨hnil, fs, hfit, hfold⟩ :=
      fits_of_foldl (fun f' hf' => hstep f' (List.mem_cons_of_mem _ hf')) (step acc f) h
    rcases hstep f (List.mem_cons_self ..) acc with ⟨w, hw, hs⟩ | ⟨is, hne, hs⟩
    · rw [hs] at hnil hfold ⊢
      refine ⟨hnil, (f.name, w) :: fs, ?_, by simp [hfold]⟩
      simp [fitsFields, hw, hfit]
    · rw [hs] at hnil
      exact absurd (List.append_eq_nil_iff.mp hnil).2 hne

theorem validate_keyedEntries {s : Schema} {fs : List (String × Value)}
    (hfit : fitsFields s.fields fs) :
    s.validate (written (keyedEntries s.fields fs)) = .ok fs := by
  dsimp only [Schema.validate]
  rw [foldl_of_fits hfit]
  · simp
  · intro f e hm acc
    obtain ⟨-, hholds⟩ := fitsFields_of_mem_zip hfit hm
    simp only [get?_keyedEntries s.keys_nodup hm, FieldType.check_of_holds _ hholds]

theorem fits_of_validate {s : Schema} {data : List (Value × Value)} {fs : List (String × Value)}
    (hdata : ∀ k v, (k, v) ∈ data → v.isJson) (h : s.validate data = .ok fs) :
    fitsFields s.fields fs := by
  dsimp only [Schema.validate] at h
  split at h
  · rename_i hnil
    injection h with h
    subst h
    have hfits := fits_of_foldl ?_ ([], []) (List.isEmpty_iff.mp hnil)
    · obtain ⟨-, fs, hfit, hfold⟩ := hfits
      rw [hfold]
      exact hfit
    -- each step appends a checked value or a default, or complains
    intro f hf acc
    split
    · rename_i v hv
      obtain ⟨k, hk⟩ := Value.mem_of_lookup hv
      split
      · rename_i w hw
        exact .inl ⟨w, FieldType.holds_of_check hw (hdata k v hk), rfl⟩
      · rename_i is his
        exact .inr ⟨is, FieldType.check_error_ne his, rfl⟩
    · split
      · rename_i d hd
        exact .inl ⟨d.toValue, s.default_holds f hf d hd, rfl⟩
      · exact .inr ⟨_, List.cons_ne_nil _ _, rfl⟩
  · cases h

end Validation

/-! ### Envelopes -/

namespace Value

@[simp] theorem truthy_bool (b : Bool) : (Value.bool b).truthy = b := rfl

@[simp] theorem truthy_null : Value.null.truthy = false := rfl

/-- A mark as an envelope gives it back: the value when truthy, else null. -/
def truthyOrNull (x : Value) : Value := if x.truthy then x else .null

theorem truthyOrNull_of_isIdentity {x : Value} (h : x.isIdentity) : x.truthyOrNull = x := by
  cases x <;> simp_all [isIdentity, truthyOrNull, truthy]

theorem bool_truthy_of_isBool {x : Value} (h : x.isBool) : Value.bool x.truthy = x := by
  cases x <;> simp_all [isBool, truthy]

end Value

namespace Adapter

open FindRequest (written)

/-- The marks an envelope starts with: truthy id and revision, and a set deletion mark. -/
def markEntries (i r d : Value) : List (Value × Value) :=
  (if i.truthy then [(.str "_id", i)] else []) ++ (if r.truthy then [(.str "_rev", r)] else []) ++
    (if d.truthy then [(.str "_deleted", .bool true)] else [])

theorem markEntries_truthyOrNull (i r d : Value) :
    markEntries i.truthyOrNull r.truthyOrNull (.bool d.truthy) = markEntries i r d := by
  unfold markEntries Value.truthyOrNull
  by_cases hi : i.truthy <;> by_cases hr : r.truthy <;> by_cases hd : d.truthy <;> simp [hi, hr, hd]

theorem domainEntries_cons_reserved {k : String} (hk : (Text.ofString k).startsWith "_" = true)
    (x : Value) (rest : List (Value × Value)) :
    domainEntries ((.str (Text.ofString k), x) :: rest) = domainEntries rest := by
  simp only [domainEntries, reservedKey, hk]
  cases domainEntries rest <;> rfl

theorem domainEntries_written {l : List (String × Value)}
    (hl : ∀ p ∈ l, (Text.ofString p.1).startsWith "_" = false) :
    domainEntries (written l) = .ok (written l) := by
  induction l with
  | nil => rfl
  | cons p l ih =>
    have hp := hl p (List.mem_cons_self ..)
    simp only [List.map_cons, domainEntries, reservedKey, hp,
      ih fun q hq => hl q (List.mem_cons_of_mem _ hq)]
    rfl

theorem domainEntries_markEntries (i r d : Value) (rest : List (Value × Value)) :
    domainEntries (markEntries i r d ++ rest) = domainEntries rest := by
  have hid : (Text.ofString "_id").startsWith "_" = true := by decide
  have hrev : (Text.ofString "_rev").startsWith "_" = true := by decide
  have hdel : (Text.ofString "_deleted").startsWith "_" = true := by decide
  unfold markEntries
  by_cases hi : i.truthy <;> by_cases hr : r.truthy <;> by_cases hd : d.truthy <;>
    simp [hi, hr, hd, domainEntries_cons_reserved hid, domainEntries_cons_reserved hrev,
      domainEntries_cons_reserved hdel]

theorem mem_of_domainEntries : ∀ {e data : List (Value × Value)}, domainEntries e = .ok data →
    ∀ p ∈ data, p ∈ e
  | [], data, h, p, hp => by
    cases h
    cases hp
  | (k, x) :: rest, data, h, p, hp => by
    simp only [domainEntries, bind, Except.bind] at h
    split at h
    · cases h
    · split at h
      · cases h
      · rename_i tail htail
        injection h with h
        subst h
        split at hp
        · exact List.mem_cons_of_mem _ (mem_of_domainEntries htail p hp)
        · rcases List.mem_cons.mp hp with rfl | hp
          · exact List.mem_cons_self ..
          · exact List.mem_cons_of_mem _ (mem_of_domainEntries htail p hp)

theorem lookup_written_reserved {k : String} (hk : (Text.ofString k).startsWith "_" = true) :
    ∀ {l : List (String × Value)}, (∀ p ∈ l, (Text.ofString p.1).startsWith "_" = false) →
    Value.lookup (.str (Text.ofString k)) (written l) = none
  | [], _ => rfl
  | p :: l, hl => by
    have hne : k ≠ p.1 := fun he => by
      have hp := hl p (List.mem_cons_self ..)
      rw [← he, hk] at hp
      cases hp
    simp only [List.map_cons, Value.lookup, Value.keyEq_str, Text.ofString_beq,
      beq_eq_false_iff_ne.mpr hne, Bool.false_eq_true, if_false]
    exact lookup_written_reserved hk fun q hq => hl q (List.mem_cons_of_mem _ hq)

section Marks

variable {l : List (String × Value)} (hl : ∀ p ∈ l, (Text.ofString p.1).startsWith "_" = false)
  (i r d : Value)
include hl

theorem getD_markEntries_id : Value.getD (markEntries i r d ++ written l) "_id" = i.truthyOrNull := by
  have hnone := lookup_written_reserved (k := "_id") (by decide) hl
  unfold markEntries Value.truthyOrNull
  by_cases hi : i.truthy <;> by_cases hr : r.truthy <;> by_cases hd : d.truthy <;>
    simp [Value.getD, Value.get?, Value.lookup, Text.ofString_beq, hi, hr, hd,
      hnone]

theorem getD_markEntries_rev :
    Value.getD (markEntries i r d ++ written l) "_rev" = r.truthyOrNull := by
  have hnone := lookup_written_reserved (k := "_rev") (by decide) hl
  unfold markEntries Value.truthyOrNull
  by_cases hi : i.truthy <;> by_cases hr : r.truthy <;> by_cases hd : d.truthy <;>
    simp [Value.getD, Value.get?, Value.lookup, Text.ofString_beq, hi, hr, hd,
      hnone]

theorem truthy_getD_markEntries_deleted :
    (Value.getD (markEntries i r d ++ written l) "_deleted").truthy = d.truthy := by
  have hnone := lookup_written_reserved (k := "_deleted") (by decide) hl
  unfold markEntries
  by_cases hi : i.truthy <;> by_cases hr : r.truthy <;> by_cases hd : d.truthy <;>
    simp [Value.getD, Value.get?, Value.lookup, Text.ofString_beq, hi, hr, hd,
      hnone]

end Marks

theorem toEnvelope_record {s : Schema} {fs : List (String × Value)} (hfit : fitsFields s.fields fs)
    (i r d : Value) :
    (model s).toEnvelope (.record s fs i r d []) =
      .ok (markEntries i r d ++ written (keyedEntries s.fields fs)) := by
  have hmark : ∀ (m : Mark) (stored : Value), Record.readMark s fs [] m stored = .ok stored :=
    fun m stored => Record.readMark_plain s fs [] m stored
      (tableEntry_reserved hfit (by cases m <;> decide)) (tableEntry_reserved hfit (by decide)) rfl
  have hdump : tableEntry fs "__pydantic_serializer__" = none := tableEntry_reserved hfit (by decide)
  simp only [toEnvelope, modelMark, hmark, Record.dump, hdump, Schema.dump,
    jsonFormFields_of_fits (fun _ h => h) hfit]
  rfl

theorem fromEnvelope_marked {s : Schema} {fs : List (String × Value)} (hfit : fitsFields s.fields fs)
    (i r d : Value) :
    (model s).fromEnvelope (.dict (markEntries i r d ++ written (keyedEntries s.fields fs))) =
      .ok (.record s fs i.truthyOrNull r.truthyOrNull (.bool d.truthy) []) := by
  have hplain : ∀ p ∈ keyedEntries s.fields fs, (Text.ofString p.1).startsWith "_" = false :=
    fun p hp => by
      obtain ⟨f, hf, hkey⟩ := key_of_mem_keyedEntries hp
      rw [hkey]
      exact s.key_not_reserved f hf
  simp only [fromEnvelope, domainEntries_markEntries, domainEntries_written hplain, bind,
    Except.bind, validate_keyedEntries hfit, getD_markEntries_id hplain, getD_markEntries_rev hplain,
    truthy_getD_markEntries_deleted hplain]
  rfl

theorem fromEnvelope_ok {s : Schema} {e : List (Value × Value)} {v : Value}
    (he : Value.isJsonEntries e) (h : (model s).fromEnvelope (.dict e) = .ok v) :
    ∃ fs, fitsFields s.fields fs ∧ v = .record s fs (Value.getD e "_id") (Value.getD e "_rev")
      (.bool (Value.getD e "_deleted").truthy) [] := by
  simp only [fromEnvelope] at h
  rcases hdata : domainEntries e with err | data
  · rw [hdata] at h
    cases h
  · rw [hdata] at h
    simp only [bind, Except.bind] at h
    split at h
    · rename_i fs hvalid
      injection h with h
      refine ⟨fs, fits_of_validate (fun k x hm => ?_) hvalid, h.symm⟩
      exact Value.isJson_of_mem_entries he (mem_of_domainEntries hdata _ hm)
    · cases h

end Adapter

namespace Schema

theorem isDocument_record {s : Schema} {v : Value} (h : s.isDocument v) :
    ∃ fs i r d, v = .record s fs i r d [] ∧ fitsFields s.fields fs ∧ i.isIdentity ∧
      r.isIdentity ∧ d.isBool := by
  cases v <;> simp only [isDocument, Bool.false_eq_true] at h
  case record s' fs i r d ss =>
    simp only [Bool.and_eq_true, beq_iff_eq, List.isEmpty_iff] at h
    obtain ⟨⟨⟨⟨⟨rfl, hfit⟩, hi⟩, hr⟩, hd⟩, rfl⟩ := h
    exact ⟨fs, i, r, d, rfl, hfit, hi, hr, hd⟩

/-- A typed document goes through its envelope unchanged. -/
theorem fromEnvelope_toEnvelope (s : Schema) :
    (∀ v, s.isDocument v → ∃ env, (Adapter.model s).toEnvelope v = .ok env ∧
      (Adapter.model s).fromEnvelope (.dict env) = .ok v) ∧
    (∀ e v₁, Value.isJsonEntries e → (Adapter.model s).fromEnvelope (.dict e) = .ok v₁ →
      ∃ E₁ v₂, (Adapter.model s).toEnvelope v₁ = .ok E₁ ∧
        (Adapter.model s).fromEnvelope (.dict E₁) = .ok v₂ ∧
        (Adapter.model s).toEnvelope v₂ = .ok E₁) := by
  constructor
  · intro v hv
    obtain ⟨fs, i, r, d, rfl, hfit, hi, hr, hd⟩ := isDocument_record hv
    refine ⟨_, Adapter.toEnvelope_record hfit i r d, ?_⟩
    rw [Adapter.fromEnvelope_marked hfit, Value.truthyOrNull_of_isIdentity hi,
      Value.truthyOrNull_of_isIdentity hr, Value.bool_truthy_of_isBool hd]
  · intro e v₁ he h
    obtain ⟨fs, hfit, rfl⟩ := Adapter.fromEnvelope_ok he h
    refine ⟨_, _, Adapter.toEnvelope_record hfit _ _ _, Adapter.fromEnvelope_marked hfit _ _ _, ?_⟩
    rw [Adapter.toEnvelope_record hfit, Adapter.markEntries_truthyOrNull]

/-- A user with an id, a revision and one tag reads back from its envelope. -/
theorem fromEnvelope_toEnvelope_user :
    ∃ env, (Adapter.model .user).toEnvelope
        (.record .user [("name", .str "Ada"), ("age", .int 36), ("tags", .list [.str "math"])]
          (.str "ada") (.str "1-a") (.bool false) []) = .ok env ∧
      (Adapter.model .user).fromEnvelope (.dict env) =
        .ok (.record .user [("name", .str "Ada"), ("age", .int 36), ("tags", .list [.str "math"])]
          (.str "ada") (.str "1-a") (.bool false) []) :=
  (fromEnvelope_toEnvelope .user).1 _ (by decide)

end Schema

end DocClient
