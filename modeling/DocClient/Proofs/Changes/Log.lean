import DocClient.Proofs.Changes.Since
import DocClient.Proofs.Changes.Requests
import DocClient.Proofs.Changes.Lines
/-!
# A continuous feed that follows a change log

`ChangeLog` is a server answering from a log of changes, and `Answer` the freedom it has with
a body. `Following j f` is the invariant of a feed at position `j`; each kind of round keeps it.
-/
namespace DocClient

open Framer

/-- A server's log of changes, each with its line, and where the server resumes for a since. -/
structure ChangeLog where
  entries : List (List UInt8 × ChangeEvent)
  resume : Option String → Option Nat

namespace ChangeLog

section Model

variable (L : ChangeLog) (depth : Nat) (adapter : Adapter)

/-- Every line of the log is one record read as its change, and resumes after it. -/
structure WellFormed : Prop where
  line : ∀ e ∈ L.entries, lineFeed ∉ e.1 ∧ isRecord e.1 = true
  reads : ∀ e ∈ L.entries, readRecord depth adapter (recordText e.1) = .ok (.change e.2)
  resumes : ∀ (i : Nat) (h : i < L.entries.length), L.resume (sinceFor L.entries[i].2.seq) = some (i + 1)

/-- A line that closes a batch at position `p`. -/
def Closes (p : Nat) (line : List UInt8) : Prop :=
  lineFeed ∉ line ∧ isRecord line = true ∧
    ∃ v, readRecord depth adapter (recordText line) = .ok (.batchEnd v) ∧ L.resume (sinceFor v) = some p

/-- The lines of an answer from position `j`: `k` changes, then perhaps a closing line. -/
def lines (j k : Nat) (close : Option (List UInt8)) : List (List UInt8) :=
  ((L.entries.drop j).take k).map (·.1) ++ close.toList

/-- Where a body may be cut: at its end, by a timeout anywhere, else only between records. -/
def Cut (ending : List Piece) (data : List UInt8) : Prop :=
  ending = [] ∨ ∃ fl more, ending = .fault fl :: more ∧
    (fl.isTimeout = true ∨ ∀ b, data.getLast? = some b → b = lineFeed)

/-- A body the server may send from position `j`, in any chunks, cut as `Cut` allows. -/
def Answer (j : Nat) (pieces : List Piece) : Prop :=
  ∃ (k : Nat) (close : Option (List UInt8)) (chunks : List (List UInt8)) (ending : List Piece),
    j + k ≤ L.entries.length ∧ (∀ c ∈ close, L.Closes depth adapter (j + k) c) ∧
    pieces = chunks.map .bytes ++ ending ∧ chunks.flatten <+: closedLines (L.lines j k close) ∧
    Cut ending chunks.flatten

/-- The server's move for a request: a success answering from the request's since. -/
def Serves (req : Request) : Scripted → Prop
  | .reply r => r.status < 400 ∧ ∃ j, L.resume req.since? = some j ∧ L.Answer depth adapter j r.pieces
  | _ => False

/-- Each scripted move taken answers the request it was taken for. -/
def Answered (more : List Request) (taken : List Scripted) : Prop :=
  ∀ (i : Nat) req sc, more[i]? = some req → taken[i]? = some sc → L.Serves depth adapter req sc

/-- A feed reading an answer at `j`: what it holds spells the start of the lines from `j`. -/
def Reading (j : Nat) (f : ChangeFeed) : Prop :=
  ∃ (k : Nat) (close : Option (List UInt8)) (chunks : List (List UInt8)) (ending : List Piece),
    j + k ≤ L.entries.length ∧ (∀ c ∈ close, L.Closes depth adapter (j + k) c) ∧
    f.reading = some (chunks.map .bytes ++ ending) ∧
    closedLines f.framer.records ++ f.framer.tail ++ chunks.flatten <+: closedLines (L.lines j k close) ∧
    (∀ r ∈ f.framer.records, lineFeed ∉ r) ∧ lineFeed ∉ f.framer.tail ∧
    Cut ending (closedLines f.framer.records ++ f.framer.tail ++ chunks.flatten)

/-- A continuous feed following the log at position `j`. -/
structure Following (j : Nat) (f : ChangeFeed) : Prop where
  continuous : f.spec.mode = .continuous
  plain : f.spec.extra = []
  adapted : f.spec.adapter = adapter
  live : f.cancelled = false
  unfinished : f.finished = false
  resumes : L.resume (sinceFor f.lastSeq) = some j
  state : (f.reading = none ∧ f.framer = {}) ∨ L.Reading depth adapter j f

/-- One call delivers the change at `j` and moves past it, or delivers none and stays. -/
def Moves (j : Nat) (r : Except Error (Option ChangeEvent)) (j' : Nat) : Prop :=
  (∃ e, L.entries[j]? = some e ∧ r = .ok (some e.2) ∧ j' = j + 1) ∨
    ((∀ ev, r ≠ .ok (some ev)) ∧ j' = j)

end Model

section Steps

variable {L : ChangeLog} {d : Nat} {adapter : Adapter} {j : Nat} {f : ChangeFeed}

theorem Answered.left {m₁ m₂ : List Request} {t₁ t₂ : List Scripted}
    (h : L.Answered d adapter (m₁ ++ m₂) (t₁ ++ t₂)) : L.Answered d adapter m₁ t₁ := by
  intro i req sc hm ht
  have hi : i < m₁.length := (List.getElem?_eq_some_iff.mp hm).1
  have hi' : i < t₁.length := (List.getElem?_eq_some_iff.mp ht).1
  exact h i req sc (by rw [List.getElem?_append_left hi, hm]) (by rw [List.getElem?_append_left hi', ht])

theorem Answered.right {m₁ m₂ : List Request} {t₁ t₂ : List Scripted}
    (h : L.Answered d adapter (m₁ ++ m₂) (t₁ ++ t₂)) (hal : t₁.length = m₁.length ∨ t₂ = []) :
    L.Answered d adapter m₂ t₂ := by
  intro i req sc hm ht
  rcases hal with hal | rfl
  · refine h (m₁.length + i) req sc ?_ ?_
    · rw [List.getElem?_append_right (by omega), Nat.add_sub_cancel_left, hm]
    · rw [List.getElem?_append_right (by omega), hal, Nat.add_sub_cancel_left, ht]
  · simp at ht

theorem lines_succ {j k : Nat} {close : Option (List UInt8)} (h : j < L.entries.length) :
    L.lines j (k + 1) close = L.entries[j].1 :: L.lines (j + 1) k close := by
  rw [lines, lines, List.drop_eq_getElem_cons h, List.take_succ_cons, List.map_cons, List.cons_append]

theorem lines_records (hL : L.WellFormed d adapter) {j k : Nat} {close : Option (List UInt8)}
    (hclose : ∀ c ∈ close, L.Closes d adapter (j + k) c) :
    ∀ l ∈ L.lines j k close, lineFeed ∉ l ∧ isRecord l = true := by
  intro l hl
  rcases List.mem_append.mp hl with hl | hl
  · obtain ⟨e, he, rfl⟩ := List.mem_map.mp hl
    exact hL.line e (List.Subset.trans (List.take_subset _ _) (List.drop_subset _ _) he)
  · obtain ⟨hlf, hrec, -⟩ := hclose l (Option.mem_toList.mp hl)
    exact ⟨hlf, hrec⟩

theorem Cut.of_append {ending : List Piece} {a x : List UInt8} (h : Cut ending (a ++ x)) :
    Cut ending x := by
  rcases h with h | ⟨fl, more, hend, hcut⟩
  · exact .inl h
  · refine .inr ⟨fl, more, hend, hcut.imp_right fun hlast b hb => hlast b ?_⟩
    rw [List.getLast?_append, hb]
    rfl

theorem Cut.tail_nil {fl : HttpFault} {more : List Piece} {t : List UInt8}
    (h : Cut (.fault fl :: more) t) (hfl : fl.isTimeout = false) (ht : lineFeed ∉ t) : t = [] := by
  rcases h with h | ⟨fl', more', hend, hcut⟩
  · cases h
  · cases hend
    rcases hcut with hto | hlast
    · rw [hfl] at hto
      cases hto
    · cases hl : t.getLast? with
      | none => exact List.getLast?_eq_none_iff.mp hl
      | some b =>
        have hb := hlast b hl
        subst hb
        exact absurd (List.mem_of_getLast? hl) ht

/-- The next framed record of a following feed is the change at `j`, or closes the batch. -/
theorem Following.serve (hL : L.WellFormed d adapter) {j : Nat} {f : ChangeFeed}
    {line : List UInt8} {rest : List (List UInt8)}
    (hF : L.Following d adapter j f) (hr : f.framer.records = line :: rest) :
    (∃ e f₁, L.entries[j]? = some e ∧ f.serveRecord d line rest = (f₁, .ok (some e.2)) ∧
      L.Following d adapter (j + 1) f₁) ∨
    (∃ f₁, f.serveRecord d line rest = (f₁, .ok none) ∧ L.Following d adapter j f₁) := by
  rcases hF.state with ⟨-, hempty⟩ | hread
  · rw [hempty] at hr
    cases hr
  obtain ⟨k, close, chunks, ending, hk, hclose, hreading, hpre, hrecs, htail, hcut⟩ := hread
  rw [hr] at hpre hrecs hcut
  have hline : lineFeed ∉ line := hrecs line List.mem_cons_self
  have hrest : ∀ r ∈ rest, lineFeed ∉ r := fun r h => hrecs r (List.mem_cons_of_mem _ h)
  rw [closedLines_cons] at hpre hcut
  simp only [List.append_assoc] at hpre hcut
  have hcut' := Cut.of_append (a := line ++ [lineFeed]) (by simpa only [List.append_assoc] using hcut)
  cases k with
  | succ k =>
    -- the record is the change at `j`
    have hj : j < L.entries.length := by omega
    rw [lines_succ hj, closedLines_cons] at hpre
    obtain ⟨rfl, hpre'⟩ := line_prefix hline (hL.line _ (List.getElem_mem hj)).1
      (by simpa only [List.append_assoc] using hpre)
    have hread : readRecord d f.spec.adapter (recordText L.entries[j].1) = .ok (.change L.entries[j].2) := by
      rw [hF.adapted]
      exact hL.reads _ (List.getElem_mem hj)
    refine .inl ⟨L.entries[j], _, List.getElem?_eq_getElem hj, ChangeFeed.serveRecord_change hread, ?_⟩
    refine ⟨hF.continuous, hF.plain, hF.adapted, hF.live, hF.unfinished, hL.resumes j hj, .inr ?_⟩
    refine ⟨k, close, chunks, ending, by omega, ?_, hreading, ?_, hrest, htail, ?_⟩
    · intro c hc
      have hpos : j + 1 + k = j + (k + 1) := by omega
      rw [hpos]
      exact hclose c hc
    · rw [List.append_assoc]
      exact hpre'
    · rw [List.append_assoc]
      exact hcut'
  | zero =>
    -- no change is left, so the record is the line that closes the batch
    cases close with
    | none =>
      obtain ⟨z, hz⟩ := hpre
      simp [lines] at hz
    | some c =>
      have hc := hclose c rfl
      obtain ⟨hclf, -, v, hend, hres⟩ := hc
      have hpre₁ : line ++ [lineFeed] ++ (closedLines rest ++ (f.framer.tail ++ chunks.flatten)) <+:
          c ++ [lineFeed] ++ [] := by
        simpa [lines] using hpre
      obtain ⟨rfl, hpre'⟩ := line_prefix hline hclf hpre₁
      have hread : readRecord d f.spec.adapter (recordText line) = .ok (.batchEnd v) := by
        rw [hF.adapted]
        exact hend
      refine .inr ⟨_, ChangeFeed.serveRecord_batchEnd hF.continuous hread, ?_⟩
      refine ⟨hF.continuous, hF.plain, hF.adapted, hF.live, hF.unfinished, hres, .inr ?_⟩
      refine ⟨0, none, chunks, ending, hk, by simp, hreading, ?_, hrest, htail, ?_⟩
      · have hnil : L.lines j 0 none = [] := by simp [lines]
        rw [hnil, closedLines_nil, List.append_assoc]
        exact hpre'
      · rw [List.append_assoc]
        exact hcut'

theorem Following.closed {g : ChangeFeed} (hF : L.Following d adapter j f) (hspec : g.spec = f.spec)
    (hseq : g.lastSeq = f.lastSeq) (hc : g.cancelled = f.cancelled) (hfin : g.finished = f.finished)
    (hr : g.framer.records = []) : L.Following d adapter j g.endOfReply.1 := by
  rw [ChangeFeed.endOfReply_fst]
  refine ⟨hspec ▸ hF.continuous, hspec ▸ hF.plain, hspec ▸ hF.adapted, hc ▸ hF.live, ?_,
    hseq ▸ hF.resumes, .inl ⟨rfl, ?_⟩⟩
  · simp [hfin, hF.unfinished, hspec, hF.continuous]
  · exact Framer.eq_empty_of_nil rfl hr

/-- A read from a following feed with nothing framed: a chunk, the end, or a read failure. -/
theorem Following.read (hL : L.WellFormed d adapter) {pieces : List Piece}
    (hF : L.Following d adapter j f) (hr : f.framer.records = []) (hread : f.reading = some pieces) :
    (∃ c rest, readOnce pieces = ([], .data c, rest) ∧
      L.Following d adapter j { f with reading := some rest, framer := f.framer.push c }) ∨
    (∃ rest, readOnce pieces = ([], .finished, rest)) ∨
    (∃ fl rest, readOnce pieces = ([], .fault fl, rest) ∧ (fl.isTimeout = true ∨ f.framer = {})) := by
  rcases hF.state with ⟨hnone, -⟩ | hreading
  · rw [hnone] at hread
    cases hread
  obtain ⟨k, close, chunks, ending, hk, hclose, hpieces, hpre, hrecs, htail, hcut⟩ := hreading
  rw [hread, Option.some.injEq] at hpieces
  subst hpieces
  rw [hr, closedLines_nil, List.nil_append] at hpre hcut
  rcases Piece.readOnce_chunks chunks ending with ⟨c, rest, hone, hflat⟩ | ⟨hflat, hone⟩
  · -- the framer takes the chunk on; records and buffer still spell the answer read so far
    refine .inl ⟨c, rest.map .bytes ++ ending, hone, ?_⟩
    rw [hflat] at hpre hcut
    have hpre₁ : closedLines f.framer.records ++ f.framer.tail ++ c ++ rest.flatten <+:
        closedLines (L.lines j k close) := by
      simpa [hr, List.append_assoc] using hpre
    obtain ⟨heq, hrecs', htail'⟩ := push_closed _ (lines_records hL hclose) c rest.flatten f.framer
      (by simp [hr]) htail hpre₁
    rw [hr, closedLines_nil, List.nil_append] at heq
    refine ⟨hF.continuous, hF.plain, hF.adapted, hF.live, hF.unfinished, hF.resumes, .inr ?_⟩
    refine ⟨k, close, rest, ending, hk, hclose, rfl, ?_, hrecs', htail', ?_⟩
    · rw [heq, List.append_assoc]
      exact hpre
    · rw [heq, List.append_assoc]
      exact hcut
  · rw [hflat, List.append_nil] at hcut
    rw [hone]
    rcases hcut with rfl | ⟨fl, more, rfl, hfl⟩
    · exact .inr (.inl ⟨[], rfl⟩)
    · refine .inr (.inr ⟨fl, more, rfl, ?_⟩)
      cases hto : fl.isTimeout
      · -- a read failure that is no timeout cuts between records, so the buffer is empty
        have htnil := Cut.tail_nil (.inr ⟨fl, more, rfl, hfl⟩) hto htail
        refine .inr ?_
        have hpend : f.framer.pendingBytes = [] := by
          simpa [Framer.tail] using htnil
        exact Framer.eq_empty_of_nil hpend hr
      · exact .inl rfl

theorem Following.answer (hF : L.Following d adapter j f) (hread : f.reading = none)
    {pieces : List Piece} (hans : L.Answer d adapter j pieces) :
    L.Following d adapter j { f with reading := some pieces } := by
  have hempty : f.framer = {} := by
    rcases hF.state with ⟨-, h⟩ | ⟨_, _, _, _, _, _, hr, _⟩
    · exact h
    · rw [hread] at hr
      cases hr
  obtain ⟨k, close, chunks, ending, hk, hclose, rfl, hpre, hcut⟩ := hans
  refine ⟨hF.continuous, hF.plain, hF.adapted, hF.live, hF.unfinished, hF.resumes, .inr ?_⟩
  refine ⟨k, close, chunks, ending, hk, hclose, rfl, ?_, ?_, ?_, ?_⟩
  · simpa [hempty, Framer.tail] using hpre
  · simp [hempty]
  · simp [hempty, Framer.tail]
  · simpa [hempty, Framer.tail] using hcut

variable {name : String} {depth : Nat} {s s₁ : Session} {more : List Request} {taken : List Scripted}

/-- Opening a following feed resumes where it stands, and reads the log's answer or fails. -/
theorem Following.opens {x : Except Error Unit} (hF : L.Following d adapter j f)
    (hread : f.reading = none) (h : (Session.openFeed name f depth).run s = (x, s₁))
    (hT : Session.Takes s s₁ more taken) (hA : L.Answered d adapter more taken) :
    (∀ req ∈ more, L.resume req.since? = some j) ∧
    ((∃ e, x = .error e ∧ s₁.feed? name = s.feed? name) ∨
      (x = .ok () ∧ ∃ f₁, s₁.feed? name = some f₁ ∧ L.Following d adapter j f₁)) := by
  rcases hs : (Session.send "GET" (Percent.joinSegments [f.spec.db, "_changes"]) f.params .none).run s
    with ⟨y, s₂⟩
  have hopen := Session.openFeed_cases hs h
  rcases Session.send_cases hs with ⟨u, -, rfl, rfl⟩ | ⟨qt, query, hq, req, hsent, hquery, hfeeds, hmove⟩
  · -- the query cannot be encoded: nothing is sent, and the open fails
    rcases hopen with ⟨r, hy, -⟩ | ⟨e, rfl, -, -, rfl | ⟨r, hy, -⟩⟩
    · cases hy
    · obtain ⟨rfl, -⟩ := hT.of_eq (List.append_nil _).symm (List.nil_append _).symm
      exact ⟨by simp, .inl ⟨e, rfl, rfl⟩⟩
    · cases hy
  -- one request is sent, resuming where the feed stands
  have hsince : L.resume req.since? = some j := by
    rw [Request.since?, hquery, ChangeFeed.query_since hF.continuous hF.plain hq]
    exact hF.resumes
  have hsame : s₂.feed? name = s.feed? name := by simp [Session.feed?, hfeeds]
  have hsent₁ : s₁.sent = s.sent ++ [req] := by
    rcases hopen with ⟨_, _, _, _, rfl⟩ | ⟨_, _, h₁, _, _⟩
    · rw [Session.setFeed_sent, hsent]
    · rw [h₁, hsent]
  have hscript₁ : s₁.script = s₂.script := by
    rcases hopen with ⟨_, _, _, _, rfl⟩ | ⟨_, _, _, h₁, _⟩
    · rfl
    · exact h₁
  rcases hmove with ⟨hnil, hnil₂, rfl⟩ | ⟨sc, hscript, hy⟩
  · -- the script has run out: the request goes unanswered, and the open fails
    obtain ⟨rfl, -⟩ := hT.of_eq hsent₁ (show _ = [] ++ _ by rw [hscript₁, hnil, hnil₂]; rfl)
    refine ⟨by simpa using hsince, ?_⟩
    rcases hopen with ⟨r, hy, -⟩ | ⟨e, rfl, -, -, rfl | ⟨r, hy, -⟩⟩
    · cases hy
    · exact .inl ⟨e, rfl, hsame⟩
    · cases hy
  obtain ⟨rfl, rfl⟩ := hT.of_eq hsent₁ (show _ = [sc] ++ _ by rw [hscript₁, hscript]; rfl)
  refine ⟨by simpa using hsince, ?_⟩
  rcases hopen with ⟨r, rfl, -, rfl, rfl⟩ | ⟨e, rfl, -, -, rfl | ⟨r, rfl, hst⟩⟩
  · -- a success reply answers from where the feed stands, and the feed reads it
    rcases hy with h | ⟨_, h⟩ <;> cases h
    obtain ⟨-, j₁, hj₁, hans⟩ := hA 0 req (.reply r) rfl rfl
    rw [hsince, Option.some.injEq] at hj₁
    subst hj₁
    exact .inr ⟨rfl, _, Session.feed?_setFeed _ _ _, hF.answer hread hans⟩
  · exact .inl ⟨e, rfl, hsame⟩
  · -- a failure status answers no request of the log
    rcases hy with h | ⟨_, h⟩ <;> cases h
    exact absurd (hA 0 req (.reply r) rfl rfl).1 (by omega)

theorem Following.drop (hF : L.Following d adapter j f) (hempty : f.framer = {}) :
    L.Following d adapter j { f with reading := none } :=
  ⟨hF.continuous, hF.plain, hF.adapted, hF.live, hF.unfinished, hF.resumes, .inl ⟨rfl, hempty⟩⟩

variable (L d adapter) in
/-- A call from `s` ending as `p` followed the log from `j`. -/
def CallFollows (name : String) (j : Nat) (s : Session)
    (p : Except Error (Option ChangeEvent) × Session) : Prop :=
  ∀ more taken, Session.Takes s p.2 more taken → L.Answered d adapter more taken →
    (∀ req ∈ more, L.resume req.since? = some j) ∧
    ∃ f' j', p.2.feed? name = some f' ∧ L.Following d adapter j' f' ∧ L.Moves j p.1 j'

theorem Moves.of_error (e : Error) : L.Moves j (.error e) j := .inr ⟨fun _ h => (by cases h), rfl⟩

theorem Moves.of_none : L.Moves j (.ok none) j := .inr ⟨fun _ h => (by cases h), rfl⟩

variable {p : Except Error (Option ChangeEvent) × Session}

theorem CallFollows.stop {f' : ChangeFeed} {j' : Nat} (hs : p.2.sent = s.sent)
    (hc : p.2.script = s.script) (hf : p.2.feed? name = some f') (hF : L.Following d adapter j' f')
    (hM : L.Moves j p.1 j') : L.CallFollows d adapter name j s p := by
  intro more taken hT _
  obtain ⟨rfl, -⟩ := hT.of_eq (by rw [hs, List.append_nil]) (by rw [hc, List.nil_append])
  exact ⟨by simp, f', j', hf, hF, hM⟩

theorem CallFollows.keep (hs : s₁.sent = s.sent) (hc : s₁.script = s.script)
    (h : L.CallFollows d adapter name j s₁ p) : L.CallFollows d adapter name j s p := by
  intro more taken hT hA
  obtain ⟨hsent, hscript, halign⟩ := hT
  exact h more taken ⟨by rw [hsent, hs], by rw [hc, hscript], halign⟩ hA

end Steps

end ChangeLog

end DocClient
