import DocClient.Changes.Stream
import DocClient.Proofs.Http.Exchange
/-!
# The rounds of a call for the next change

One equation per kind of round (serve a record, stop, open, read), what a session keeps
between rounds, and the bound on a call's work.
-/
namespace DocClient

namespace Piece

/-- The bytes a piece delivers. -/
def data : Piece → List UInt8
  | .bytes bs => bs
  | _ => []

/-- The work a piece stands for in the bound of a call: its bytes and one more. -/
def work : Piece → Nat
  | .bytes bs => bs.length + 1
  | _ => 1

/-- The work of the pieces of a reply. -/
def listWork (ps : List Piece) : Nat := ps.foldl (fun n p => n + p.work) 0

theorem foldl_add_start {α : Type} (g : α → Nat) (l : List α) (a : Nat) :
    l.foldl (fun n x => n + g x) a = a + l.foldl (fun n x => n + g x) 0 := by
  induction l generalizing a with
  | nil => simp
  | cons x l ih =>
    simp only [List.foldl_cons]
    rw [ih (a + g x), ih (0 + g x)]
    omega

theorem le_foldl {α : Type} (step : Nat → α → Nat) (hstep : ∀ n x, n ≤ step n x) (l : List α)
    (a : Nat) : a ≤ l.foldl step a := by
  induction l generalizing a with
  | nil => simp
  | cons x l ih => exact Nat.le_trans (hstep a x) (ih (step a x))

@[simp] theorem listWork_nil : listWork [] = 0 := rfl

@[simp] theorem listWork_cons (p : Piece) (ps : List Piece) :
    listWork (p :: ps) = p.work + listWork ps := by
  simp only [listWork, List.foldl_cons]
  rw [foldl_add_start]
  omega

theorem readOnce_bytes (ps : List Piece) (hps : ∀ p ∈ ps, ∃ bs, p = .bytes bs) :
    (readOnce ps = ([], .finished, []) ∧ ps.flatMap data = []) ∨
    ∃ bs rest, readOnce ps = ([], .data bs, rest) ∧ ps.flatMap data = bs ++ rest.flatMap data ∧
      (∀ p ∈ rest, ∃ bs, p = .bytes bs) ∧ listWork rest + bs.length + 1 ≤ listWork ps := by
  induction ps with
  | nil => exact .inl ⟨rfl, rfl⟩
  | cons p ps ih =>
    obtain ⟨bs, rfl⟩ := hps p (by simp)
    have hrest : ∀ q ∈ ps, ∃ bs, q = .bytes bs := fun q hq => hps q (by simp [hq])
    cases bs with
    | nil =>
      rcases ih hrest with ⟨hread, hdata⟩ | ⟨bs', rest, hread, hdata, hbytes, hwork⟩
      · exact .inl ⟨by simp [readOnce, hread], by simp [data, hdata]⟩
      · refine .inr ⟨bs', rest, by simp [readOnce, hread], by simp [data, hdata], hbytes, ?_⟩
        simp only [listWork_cons, work]
        omega
    | cons b bs =>
      refine .inr ⟨b :: bs, ps, rfl, rfl, hrest, ?_⟩
      simp [work]
      omega

theorem readOnce_chunks (chunks : List (List UInt8)) (ending : List Piece) :
    (∃ (c : List UInt8) (rest : List (List UInt8)),
      readOnce (chunks.map .bytes ++ ending) = ([], .data c, rest.map .bytes ++ ending) ∧
      chunks.flatten = c ++ rest.flatten) ∨
    (chunks.flatten = [] ∧ readOnce (chunks.map .bytes ++ ending) = readOnce ending) := by
  induction chunks with
  | nil => exact .inr ⟨rfl, rfl⟩
  | cons c cs ih =>
    cases c with
    | nil =>
      rcases ih with ⟨c, rest, hread, hflat⟩ | ⟨hflat, hread⟩
      · exact .inl ⟨c, rest, by simpa [readOnce] using hread, by simpa using hflat⟩
      · exact .inr ⟨by simpa using hflat, by simpa [readOnce] using hread⟩
    | cons b bs => exact .inl ⟨b :: bs, cs, rfl, rfl⟩

end Piece

namespace ChangeFeed

theorem endOfReply_fst (f : ChangeFeed) :
    f.endOfReply.1 = { f with reading := none, framer := { f.framer with pendingBytes := [] },
                              finished := f.finished || f.spec.mode = .bounded } := by
  unfold endOfReply
  dsimp only
  split <;> rfl

section Serve

variable {f : ChangeFeed} {d : Nat} {line : List UInt8} {rest : List (List UInt8)}

theorem serveRecord_change {ev : ChangeEvent}
    (h : readRecord d f.spec.adapter (recordText line) = .ok (.change ev)) :
    f.serveRecord d line rest =
      ({ f with framer := { f.framer with records := rest }, lastSeq := ev.seq }, .ok (some ev)) := by
  unfold serveRecord
  dsimp only
  rw [h]

theorem serveRecord_batchEnd {v : Value} (hc : f.spec.mode = .continuous)
    (h : readRecord d f.spec.adapter (recordText line) = .ok (.batchEnd v)) :
    f.serveRecord d line rest =
      ({ f with framer := { f.framer with records := rest }, lastSeq := v }, .ok none) := by
  unfold serveRecord
  dsimp only
  rw [h]
  dsimp only
  rw [hc]
  rfl

end Serve

end ChangeFeed

namespace Session

@[simp] theorem feed?_setFeed (s : Session) (name : String) (f : ChangeFeed) :
    (s.setFeed name f).feed? name = some f := by
  have hnone : (s.feeds.filter (·.1 != name)).find? (·.1 = name) = none := by
    simp [List.find?_eq_none]
  simp [feed?, setFeed, List.find?_append, hnone]

@[simp] theorem setFeed_setFeed (s : Session) (name : String) (f g : ChangeFeed) :
    (s.setFeed name f).setFeed name g = s.setFeed name g := by
  simp [setFeed, List.filter_append, List.filter_filter]

theorem send_of_reply {method path : String} {params : List (Value × Value)} {body : RequestBody}
    {s : Session} {r : Reply} {rest : List Scripted} {queryText : Option String}
    {query : List (String × String)}
    (hq : requestQuery (s.base.join path).query params = .ok (queryText, query))
    (ht : Url.namesType ({ s.base.join path with query := queryText } : Url).text = true)
    (hs : s.script = .reply r :: rest) :
    ∃ req, (send method path params body).run s =
      (.ok (.reply r), { s with sent := s.sent ++ [req], script := rest }) := by
  refine ⟨{ method, path := if (s.base.join path).path.isEmpty then "/" else (s.base.join path).path,
            query, authorization := s.authorization, body }, ?_⟩
  simp only [send, StateT.run_bind, StateT.run_get, pure_bind, hq, hs, StateT.run_set, ht, if_true]
  rfl

theorem openFeed_reply {name : String} {f : ChangeFeed} {depth : Nat} {s s' : Session} {r : Reply}
    (hsend : (send "GET" (Percent.joinSegments [f.spec.db, "_changes"]) f.params .none).run s =
      (.ok (.reply r), s'))
    (hstatus : r.status < 400) :
    (openFeed name f depth).run s = (.ok (), s'.setFeed name { f with reading := some r.pieces }) := by
  have hlt : ¬ 400 ≤ r.status := by omega
  have hpure : (send "GET" (Percent.joinSegments [f.spec.db, "_changes"]) f.params .none).run s =
      pure (.ok (.reply r), s') := hsend
  rw [openFeed, StateT.run_bind, hpure, pure_bind]
  simp only [hlt, ↓reduceIte]
  rfl

theorem workBound_eq (s : Session) :
    s.workBound = 2 * (s.script.foldl (fun n r => n + 2 + match r with
      | .reply r => Piece.listWork r.pieces
      | _ => 0) 0 + s.feeds.foldl (fun n f => n + 2 + f.2.framer.records.length +
        Piece.listWork (f.2.reading.getD [])) 0) + 4 := rfl

theorem feedWork_lt_workBound (s : Session) (name : String) (f : ChangeFeed) :
    f.framer.records.length + Piece.listWork (f.reading.getD []) + 1 < (s.setFeed name f).workBound := by
  rw [workBound_eq]
  simp only [setFeed, List.foldl_append, List.foldl_cons, List.foldl_nil]
  omega

theorem replyWork_lt_workBound (s : Session) (r : Reply) (rest : List Scripted)
    (h : s.script = .reply r :: rest) :
    Piece.listWork r.pieces + 2 < s.workBound := by
  rw [workBound_eq, h, List.foldl_cons]
  have := Piece.le_foldl (fun n r => n + 2 + match r with
    | .reply r => Piece.listWork r.pieces
    | _ => 0) (fun n x => by omega) rest (0 + 2 + Piece.listWork r.pieces)
  dsimp only at this ⊢
  omega

/-- The answers of `k` calls in a row for the next change of the named feed. -/
def nextChanges (name : String) (depth : Nat) :
    Nat → StateM Session (List (Except Error (Option ChangeEvent)))
  | 0 => pure []
  | k + 1 => do
    let a ← nextChange name depth
    let as ← nextChanges name depth k
    pure (a :: as)

@[simp] theorem nextChanges_zero (name : String) (depth : Nat) (s : Session) :
    (nextChanges name depth 0).run s = ([], s) := rfl

theorem nextChanges_succ (name : String) (depth k : Nat) (s : Session) :
    (nextChanges name depth (k + 1)).run s =
      let p := (nextChangeWithin name depth (s.workBound + 1)).run s
      let q := (nextChanges name depth k).run p.2
      (p.1 :: q.1, q.2) := by
  simp [nextChanges, nextChange]
  rfl

/-! ### One equation per kind of round -/

section Rounds

variable (name : String) (depth fuel : Nat) (s : Session) (f : ChangeFeed)

theorem nextChangeWithin_serve (line : List UInt8) (rest : List (List UInt8))
    (hf : s.feed? name = some f) (hr : f.framer.records = line :: rest) :
    (nextChangeWithin name depth (fuel + 1)).run s =
      match f.serveRecord (depth + 1) line rest with
      | (f', .ok none) => (nextChangeWithin name depth fuel).run (s.setFeed name f')
      | (f', r) => (r, s.setFeed name f') := by
  rw [nextChangeWithin]
  simp only [StateT.run_bind, StateT.run_get, hf, hr, StateT.run_set, pure_bind]
  rcases f.serveRecord (depth + 1) line rest with ⟨f', _ | _ | _⟩ <;> rfl

theorem nextChangeWithin_stop (hf : s.feed? name = some f) (hr : f.framer.records = [])
    (hstop : f.cancelled = true ∨ f.finished = true) :
    (nextChangeWithin name depth (fuel + 1)).run s =
      (.ok none, s.setFeed name { f with reading := none }) := by
  rw [nextChangeWithin]
  simp [hf, hr, hstop]
  rfl

theorem nextChangeWithin_open (hf : s.feed? name = some f) (hr : f.framer.records = [])
    (hc : f.cancelled = false) (hfin : f.finished = false) (hread : f.reading = none) :
    (nextChangeWithin name depth (fuel + 1)).run s =
      match (openFeed name f depth).run s with
      | (.error e, s') => (.error e, s')
      | (.ok (), s') => (nextChangeWithin name depth fuel).run s' := by
  rw [nextChangeWithin]
  simp only [StateT.run_bind, StateT.run_get, hf, hr, hc, hfin, hread, pure_bind]
  simp
  rcases (openFeed name f depth).run s with ⟨_ | _, s'⟩ <;> rfl

theorem nextChangeWithin_data (pieces rest : List Piece) (bs : List UInt8)
    (hf : s.feed? name = some f) (hr : f.framer.records = [])
    (hc : f.cancelled = false) (hfin : f.finished = false) (hread : f.reading = some pieces)
    (hone : readOnce pieces = ([], .data bs, rest)) :
    (nextChangeWithin name depth (fuel + 1)).run s =
      (nextChangeWithin name depth fuel).run
        (s.setFeed name { f with reading := some rest, framer := f.framer.push bs }) := by
  rw [nextChangeWithin]
  simp [hf, hr, hc, hfin, hread, hone, cancelEach]

theorem nextChangeWithin_finished (pieces rest : List Piece)
    (hf : s.feed? name = some f) (hr : f.framer.records = [])
    (hc : f.cancelled = false) (hfin : f.finished = false) (hread : f.reading = some pieces)
    (hone : readOnce pieces = ([], .finished, rest)) :
    (nextChangeWithin name depth (fuel + 1)).run s =
      match ({ f with reading := some rest } : ChangeFeed).endOfReply with
      | (f', some e) => (.error e, s.setFeed name f')
      | (f', none) => (nextChangeWithin name depth fuel).run (s.setFeed name f') := by
  -- the feed is taken apart so that its flags are the same constants on both sides
  obtain ⟨spec, lastSeq, framer, reading, cancelled, finished⟩ := f
  simp only at hc hfin hr hread
  subst hc hfin hread
  rw [nextChangeWithin]
  simp [hf, hr, hone, cancelEach]
  generalize ChangeFeed.endOfReply _ = p
  rcases p with ⟨f', _ | e⟩ <;> rfl

theorem nextChangeWithin_fault (pieces rest : List Piece) (fl : HttpFault)
    (hf : s.feed? name = some f) (hr : f.framer.records = [])
    (hc : f.cancelled = false) (hfin : f.finished = false) (hread : f.reading = some pieces)
    (hone : readOnce pieces = ([], .fault fl, rest)) :
    (nextChangeWithin name depth (fuel + 1)).run s =
      if f.spec.mode = .continuous ∧ fl.isTimeout = true then
        (nextChangeWithin name depth fuel).run (s.setFeed name
          ({ f with reading := some rest, framer := { f.framer with pendingBytes := [] } } :
            ChangeFeed).endOfReply.1)
      else
        (.error (transportError ("Changes feed read failed: " ++ fl.message) (.str "changes") .null),
          s.setFeed name { f with reading := none }) := by
  rw [nextChangeWithin]
  simp [hf, hr, hc, hfin, hread, hone, cancelEach]
  split <;> rfl

end Rounds

end Session

end DocClient
