import DocClient.Changes.Framing
/-!
# Feed records are the lines of the body

The framer's records are the non-blank pieces of the body split at line feeds, however the
body is cut into reads (`foldl_push_splitOn`).
-/
namespace DocClient

namespace Framer

theorem tail_step_lineFeed (f : Framer) : (f.step lineFeed).tail = [] := by
  simp [step, tail]

theorem records_step_lineFeed (f : Framer) :
    (f.step lineFeed).records = f.records ++ (if isRecord f.tail then [f.tail] else []) := by
  by_cases h : isRecord f.tail = true
  · simp [step, tail] at h ⊢
    simp [h]
  · simp [step, tail] at h ⊢
    simp [h]

theorem tail_step_of_ne (f : Framer) {b : UInt8} (hb : b ≠ lineFeed) :
    (f.step b).tail = f.tail ++ [b] := by
  simp [step, tail, hb]

theorem records_step_of_ne (f : Framer) {b : UInt8} (hb : b ≠ lineFeed) :
    (f.step b).records = f.records := by
  simp [step, hb]

theorem push_records_append (pb d : List UInt8) (rs qs : List (List UInt8)) :
    ({ pendingBytes := pb, records := rs ++ qs } : Framer).push d =
      { pendingBytes := (({ pendingBytes := pb, records := qs } : Framer).push d).pendingBytes,
        records := rs ++ (({ pendingBytes := pb, records := qs } : Framer).push d).records } := by
  induction d generalizing pb qs with
  | nil => rfl
  | cons b d ih =>
    rw [push_cons, push_cons]
    by_cases hb : b = lineFeed
    · by_cases hrec : isRecord pb.reverse = true
      · have := ih [] (qs ++ [pb.reverse])
        simp only [step, hb, hrec, if_true, List.append_assoc] at this ⊢
        exact this
      · have := ih [] qs
        simp only [step, hb, hrec, if_true] at this ⊢
        simpa using this
    · have := ih (b :: pb) qs
      simp only [step, hb, if_false] at this ⊢
      exact this

theorem records_length_push (f : Framer) (d : List UInt8) :
    (f.push d).records.length ≤ f.records.length + d.length := by
  induction d generalizing f with
  | nil => simp
  | cons b d ih =>
    rw [push_cons]
    have hstep : (f.step b).records.length ≤ f.records.length + 1 := by
      by_cases hb : b = lineFeed
      · by_cases hrec : isRecord f.pendingBytes.reverse = true <;> simp [step, hb, hrec]
      · simp [step, hb]
    have := ih (f.step b)
    simp only [List.length_cons]
    omega

theorem push_splitOn (f : Framer) (d : List UInt8) (h : lineFeed ∉ f.tail) :
    ∃ lines, (f.tail ++ d).splitOn lineFeed = lines ++ [(f.push d).tail] ∧
      (f.push d).records = f.records ++ lines.filter isRecord ∧
      lineFeed ∉ (f.push d).tail := by
  induction d generalizing f with
  | nil =>
    refine ⟨[], ?_, ?_, h⟩
    · simp [List.splitOn_eq_singleton h]
    · simp
  | cons b d ih =>
    rw [push_cons]
    by_cases hb : b = lineFeed
    · subst hb
      have hempty : lineFeed ∉ (f.step lineFeed).tail := by simp [tail_step_lineFeed]
      obtain ⟨lines, hs, hr, hn⟩ := ih (f.step lineFeed) hempty
      refine ⟨f.tail :: lines, ?_, ?_, hn⟩
      · rw [tail_step_lineFeed, List.nil_append] at hs
        rw [List.splitOn_append_cons_self_of_not_mem h, hs]
        rfl
      · rw [hr, records_step_lineFeed]
        by_cases hrec : isRecord f.tail = true
        · simp [hrec]
        · simp [hrec]
    · have hext : lineFeed ∉ (f.step b).tail := by
        rw [tail_step_of_ne f hb]
        simp only [List.mem_append, List.mem_singleton, not_or]
        exact ⟨h, fun he => hb he.symm⟩
      obtain ⟨lines, hs, hr, hn⟩ := ih (f.step b) hext
      refine ⟨lines, ?_, ?_, hn⟩
      · rw [tail_step_of_ne f hb, List.append_assoc, List.singleton_append] at hs
        exact hs
      · rw [hr, records_step_of_ne f hb]

/-- Feeding chunks frames the non-blank pieces of buffer-then-chunks split at line feeds. -/
theorem foldl_push_splitOn (f : Framer) (chunks : List (List UInt8)) (h : lineFeed ∉ f.tail) :
    chunks.foldl push f = f.push chunks.flatten ∧
    (chunks.foldl push f).records =
      f.records ++ ((f.tail ++ chunks.flatten).splitOn lineFeed).dropLast.filter isRecord ∧
    ((f.tail ++ chunks.flatten).splitOn lineFeed).getLast? = some (chunks.foldl push f).tail ∧
    lineFeed ∉ (chunks.foldl push f).tail := by
  rw [push_flatten]
  obtain ⟨lines, hs, hr, hn⟩ := push_splitOn f chunks.flatten h
  refine ⟨rfl, ?_, ?_, hn⟩
  · rw [hr, hs, List.dropLast_concat]
  · rw [hs, List.getLast?_concat]

/-- A record cut across three reads, a carriage return and a heartbeat line. -/
theorem foldl_push_splitOn_heartbeat :
    lineFeed ∉ ({ pendingBytes := [0x62, 0x61], records := [[0x78]] } : Framer).tail ∧
    ([[0x63, 0x0D, 0x0A, 0x20], [0x20, 0x0A, 0x64], [0x0A, 0x65]].foldl push
        ({ pendingBytes := [0x62, 0x61], records := [[0x78]] } : Framer) =
      ({ pendingBytes := [0x62, 0x61], records := [[0x78]] } : Framer).push
        [[0x63, 0x0D, 0x0A, 0x20], [0x20, 0x0A, 0x64], [0x0A, 0x65]].flatten ∧
    ([[0x63, 0x0D, 0x0A, 0x20], [0x20, 0x0A, 0x64], [0x0A, 0x65]].foldl push
        ({ pendingBytes := [0x62, 0x61], records := [[0x78]] } : Framer)).records =
      ({ pendingBytes := [0x62, 0x61], records := [[0x78]] } : Framer).records ++
        ((({ pendingBytes := [0x62, 0x61], records := [[0x78]] } : Framer).tail ++
          [[0x63, 0x0D, 0x0A, 0x20], [0x20, 0x0A, 0x64], [0x0A, 0x65]].flatten).splitOn
            lineFeed).dropLast.filter isRecord ∧
    ((({ pendingBytes := [0x62, 0x61], records := [[0x78]] } : Framer).tail ++
        [[0x63, 0x0D, 0x0A, 0x20], [0x20, 0x0A, 0x64], [0x0A, 0x65]].flatten).splitOn
          lineFeed).getLast? =
      some ([[0x63, 0x0D, 0x0A, 0x20], [0x20, 0x0A, 0x64], [0x0A, 0x65]].foldl push
        ({ pendingBytes := [0x62, 0x61], records := [[0x78]] } : Framer)).tail ∧
    lineFeed ∉ ([[0x63, 0x0D, 0x0A, 0x20], [0x20, 0x0A, 0x64], [0x0A, 0x65]].foldl push
        ({ pendingBytes := [0x62, 0x61], records := [[0x78]] } : Framer)).tail) :=
  ⟨by decide, foldl_push_splitOn _ _ (by decide)⟩

/-! ### Records of a body made of closed lines

When the body is a run of lines, each closed by a line feed and each a record, the framer
takes the records whole and in order, whatever the chunks: `push_closed`. -/

theorem eq_empty_of_nil {f : Framer} (hp : f.pendingBytes = []) (hr : f.records = []) :
    f = {} := by
  cases f
  simp only at hp hr
  rw [hp, hr]

/-- Lines each closed by a line feed. -/
def closedLines (ls : List (List UInt8)) : List UInt8 := ls.flatMap (· ++ [lineFeed])

@[simp] theorem closedLines_nil : closedLines [] = [] := rfl

@[simp] theorem closedLines_cons (l : List UInt8) (ls : List (List UInt8)) :
    closedLines (l :: ls) = l ++ [lineFeed] ++ closedLines ls := by
  simp [closedLines]

@[simp] theorem closedLines_append (ls ms : List (List UInt8)) :
    closedLines (ls ++ ms) = closedLines ls ++ closedLines ms := by
  simp [closedLines]

theorem takeWhile_line {l : List UInt8} (hl : lineFeed ∉ l) (rest : List UInt8) :
    (l ++ lineFeed :: rest).takeWhile (· != lineFeed) = l := by
  induction l with
  | nil => simp
  | cons b l ih =>
    have hb : b ≠ lineFeed := fun h => hl (h ▸ List.mem_cons_self)
    have hl' : lineFeed ∉ l := fun h => hl (List.mem_cons_of_mem _ h)
    simp [hb, ih hl']

theorem line_prefix {a b x y : List UInt8} (ha : lineFeed ∉ a) (hb : lineFeed ∉ b)
    (h : a ++ [lineFeed] ++ x <+: b ++ [lineFeed] ++ y) : a = b ∧ x <+: y := by
  obtain ⟨z, hz⟩ := h
  have hsame : a = b := by
    have := congrArg (List.takeWhile (· != lineFeed)) hz
    simp only [List.append_assoc, List.cons_append] at this
    rwa [takeWhile_line ha, takeWhile_line hb] at this
  subst hsame
  refine ⟨rfl, z, ?_⟩
  simpa [List.append_assoc] using hz

theorem closedLines_prefix {xs ys : List (List UInt8)} {t : List UInt8}
    (hx : ∀ x ∈ xs, lineFeed ∉ x) (hy : ∀ y ∈ ys, lineFeed ∉ y)
    (h : closedLines xs ++ t <+: closedLines ys) : xs <+: ys := by
  induction xs generalizing ys with
  | nil => exact List.nil_prefix
  | cons x xs ih =>
    cases ys with
    | nil =>
      obtain ⟨z, hz⟩ := h
      simp at hz
    | cons y ys =>
      simp only [closedLines_cons, List.append_assoc] at h
      obtain ⟨hxy, hrest⟩ := line_prefix (hx x List.mem_cons_self) (hy y List.mem_cons_self)
        (by simpa only [List.append_assoc] using h)
      subst hxy
      exact List.prefix_cons_inj x |>.mpr (ih (fun x' hx' => hx x' (List.mem_cons_of_mem _ hx'))
        (fun y' hy' => hy y' (List.mem_cons_of_mem _ hy')) hrest)

/-- Pushing bytes that continue closed lines frames each line they close, kept whole. -/
theorem push_closed (ls : List (List UInt8)) (hls : ∀ l ∈ ls, lineFeed ∉ l ∧ isRecord l = true) :
    ∀ (bs rest : List UInt8) (f : Framer), (∀ r ∈ f.records, lineFeed ∉ r) → lineFeed ∉ f.tail →
      closedLines f.records ++ f.tail ++ bs ++ rest <+: closedLines ls →
      closedLines (f.push bs).records ++ (f.push bs).tail = closedLines f.records ++ f.tail ++ bs ∧
        (∀ r ∈ (f.push bs).records, lineFeed ∉ r) ∧ lineFeed ∉ (f.push bs).tail
  | [], _, f, hr, ht, _ => ⟨by simp, hr, ht⟩
  | b :: bs, rest, f, hr, ht, h => by
    rw [push_cons]
    by_cases hb : b = lineFeed
    · subst hb
      -- the line closed here is a line of the text, so a record
      have hline : f.records ++ [f.tail] <+: ls := by
        refine closedLines_prefix (t := bs ++ rest) ?_ (fun l hl => (hls l hl).1) ?_
        · intro x hx
          rcases List.mem_append.mp hx with hx | hx
          · exact hr x hx
          · rw [List.mem_singleton.mp hx]
            exact ht
        · simpa [List.append_assoc] using h
      have hrec : isRecord f.tail = true :=
        (hls f.tail (hline.subset (by simp))).2
      have hstep : (f.step lineFeed).records = f.records ++ [f.tail] := by
        rw [records_step_lineFeed, if_pos hrec]
      obtain ⟨heq, hr', ht'⟩ := push_closed ls hls bs rest (f.step lineFeed)
        (by
          rw [hstep]
          intro x hx
          rcases List.mem_append.mp hx with hx | hx
          · exact hr x hx
          · rw [List.mem_singleton.mp hx]
            exact ht)
        (by rw [tail_step_lineFeed]; simp)
        (by rw [hstep, tail_step_lineFeed]; simpa [List.append_assoc] using h)
      refine ⟨?_, hr', ht'⟩
      rw [heq, hstep, tail_step_lineFeed]
      simp
    · have hstep : (f.step b).records = f.records := records_step_of_ne f hb
      have htail : (f.step b).tail = f.tail ++ [b] := tail_step_of_ne f hb
      obtain ⟨heq, hr', ht'⟩ := push_closed ls hls bs rest (f.step b)
        (by rw [hstep]; exact hr)
        (by
          rw [htail]
          simp only [List.mem_append, List.mem_singleton, not_or]
          exact ⟨ht, fun he => hb he.symm⟩)
        (by rw [hstep, htail]; simpa [List.append_assoc] using h)
      refine ⟨?_, hr', ht'⟩
      rw [heq, hstep, htail]
      simp

end Framer

end DocClient
