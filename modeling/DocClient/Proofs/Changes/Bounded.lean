import DocClient.Proofs.Changes.Rounds
import DocClient.Proofs.Changes.Lines
import Mathlib.Tactic.Set
/-!
# A bounded feed answers from its body alone

However its body is cut into reads, a bounded feed gives the outcomes of the body's record
lines in order, then the verdict on its tail, then the end (`bounded_feed_answers`).
-/
namespace DocClient

namespace ChangeFeed

/-- The answer of a call with these outcomes to come: the first, or the end of the feed. -/
def answerOf : List (Except Error ChangeEvent) → Except Error (Option ChangeEvent)
  | [] => .ok none
  | o :: _ => o.map some

/-- The failure a malformed record raises, with the reason it cannot be read. -/
def malformedFailure (reason : Except String Text) (text : String) : Error :=
  match reason with
  | .ok r => streamError ("Malformed change record: " ++ r) text
  | .error m => .type m

/-- The verdict on the tail a reply ends with: a tail that is not blank is a record cut off. -/
def cutOff (tail : List UInt8) : List (Except Error ChangeEvent) :=
  let t := Blank.trimBytesBy Blank.isAsciiBlank tail
  if t.isEmpty then []
  else [.error (streamError "Changes feed ended in the middle of a record" (String.ofList (Utf8.decodeReplacing t)))]

theorem cutOff_framer_tail (f : ChangeFeed) : cutOff f.framer.tail = f.endOfReply.2.toList.map .error := by
  unfold cutOff endOfReply
  dsimp only
  split <;> simp_all

/-- The outcomes a bounded feed gives for its record lines, and the sequence it ends at. -/
def boundedOutcomes (spec : FeedSpec) (depth : Nat) (tail : List UInt8) :
    Value → List (List UInt8) → List (Except Error ChangeEvent) × Value
  | seq, [] => (cutOff tail, seq)
  | seq, line :: lines =>
    match readRecord depth spec.adapter (recordText line) with
    | .error e =>
      let r := boundedOutcomes spec depth tail seq lines
      (.error e :: r.1, r.2)
    | .ok (.batchEnd last) => ([], last)
    | .ok (.malformed reason) =>
      let r := boundedOutcomes spec depth tail seq lines
      match spec.policy with
      | .skip => r
      | .raise => (.error (malformedFailure reason (recordText line)) :: r.1, r.2)
    | .ok (.change ev) =>
      let r := boundedOutcomes spec depth tail ev.seq lines
      (.ok ev :: r.1, r.2)

/-- The framer after the bytes of the reply that are still unread. -/
def ahead (f : ChangeFeed) : Framer := f.framer.push ((f.reading.getD []).flatMap Piece.data)

/-- What a bounded feed has still to give: its records' outcomes, then the tail's verdict. -/
def answersLeft (f : ChangeFeed) (depth : Nat) : List (Except Error ChangeEvent) × Value :=
  if f.finished then ([], f.lastSeq)
  else boundedOutcomes f.spec depth f.ahead.tail f.lastSeq f.ahead.records

/-- A feed that has read nothing yet and is neither cancelled nor finished. -/
structure Unopened (f : ChangeFeed) : Prop where
  empty : f.framer = {}
  closed : f.reading = none
  live : f.cancelled = false
  unfinished : f.finished = false

/-- A bounded feed that reads its one reply, or has finished with it. -/
structure BoundedReading (f : ChangeFeed) : Prop where
  bounded : f.spec.mode = .bounded
  live : f.cancelled = false
  bytes : ∀ p ∈ f.reading.getD [], ∃ bs, p = .bytes bs
  opened : f.finished = false → f.reading.isSome = true
  drained : f.finished = true → f.framer.records = []

/-- The rounds a call may still take: one per framed record, the pieces left, one to finish. -/
def workLeft (f : ChangeFeed) : Nat :=
  f.framer.records.length + Piece.listWork (f.reading.getD []) + if f.finished then 0 else 1

theorem ahead_cons (f : ChangeFeed) (line : List UInt8) (rest : List (List UInt8))
    (hr : f.framer.records = line :: rest) :
    f.ahead = { pendingBytes := ({ f with framer := { f.framer with records := rest } }).ahead.pendingBytes,
                records := line :: ({ f with framer := { f.framer with records := rest } }).ahead.records } := by
  obtain ⟨spec, lastSeq, ⟨pb, rs⟩, reading, cancelled, finished⟩ := f
  simp only at hr
  subst hr
  simpa [ahead] using Framer.push_records_append pb ((reading.getD []).flatMap Piece.data) [line] rest

theorem answersLeft_cons (f : ChangeFeed) (depth : Nat) (line : List UInt8) (rest : List (List UInt8))
    (hr : f.framer.records = line :: rest) (hfin : f.finished = false) :
    f.answersLeft depth =
      boundedOutcomes f.spec depth ({ f with framer := { f.framer with records := rest } }).ahead.tail
        f.lastSeq (line :: ({ f with framer := { f.framer with records := rest } }).ahead.records) := by
  rw [answersLeft, if_neg (by simp [hfin]), ahead_cons f line rest hr]
  rfl

theorem answersLeft_of_unfinished (f : ChangeFeed) (depth : Nat) (hfin : f.finished = false) :
    f.answersLeft depth = boundedOutcomes f.spec depth f.ahead.tail f.lastSeq f.ahead.records := by
  simp [answersLeft, hfin]

theorem serveRecord_bounded (f : ChangeFeed) (depth : Nat) (line : List UInt8)
    (rest : List (List UInt8)) (hf : f.BoundedReading) (hr : f.framer.records = line :: rest) :
    (f.serveRecord depth line rest).1.BoundedReading ∧
      (f.serveRecord depth line rest).1.workLeft < f.workLeft ∧
      ((f.serveRecord depth line rest).2 = .ok none →
        (f.serveRecord depth line rest).1.answersLeft depth = f.answersLeft depth) ∧
      ((f.serveRecord depth line rest).2 ≠ .ok none →
        (f.serveRecord depth line rest).2 = answerOf (f.answersLeft depth).1 ∧
        (f.serveRecord depth line rest).1.answersLeft depth =
          ((f.answersLeft depth).1.tail, (f.answersLeft depth).2)) := by
  have hfin : f.finished = false := by
    cases h : f.finished
    · rfl
    · simp [hf.drained h] at hr
  have hleft := answersLeft_cons f depth line rest hr hfin
  -- the feed with the record taken off, which every kind of record leads to
  set f0 : ChangeFeed := { f with framer := { f.framer with records := rest } } with hf0
  have hwork : f0.workLeft + 1 = f.workLeft := by
    simp [workLeft, hf0, hr, hfin]
    omega
  have hinv : f0.BoundedReading :=
    ⟨hf.bounded, hf.live, hf.bytes, hf.opened, fun h => by simp [hf0, hfin] at h⟩
  have hleft0 := answersLeft_of_unfinished f0 depth hfin
  cases hm : readRecord depth f.spec.adapter (recordText line) with
  | error e =>
    have hserve : f.serveRecord depth line rest = (f0, .error e) := by
      simp [serveRecord, hm, hf0]
    simp only [hserve, hleft, boundedOutcomes, hm, hleft0]
    refine ⟨hinv, by omega, by simp, fun _ => ⟨rfl, rfl⟩⟩
  | ok m =>
    cases m with
    | batchEnd last =>
      have hserve : f.serveRecord depth line rest =
          ({ f0 with lastSeq := last, finished := true, framer := { f0.framer with records := [] } }, .ok none) := by
        simp [serveRecord, hm, hf0, hf.bounded]
      simp only [hserve, hleft, boundedOutcomes, hm]
      refine ⟨⟨hf.bounded, hf.live, hf.bytes, by simp, fun _ => rfl⟩, ?_, fun _ => by simp [answersLeft], by simp⟩
      simp only [workLeft, hf0, hr, hfin, List.length_nil, List.length_cons, ↓reduceIte,
        Bool.false_eq_true]
      omega
    | change ev =>
      have hserve : f.serveRecord depth line rest = ({ f0 with lastSeq := ev.seq }, .ok (some ev)) := by
        simp [serveRecord, hm, hf0]
      simp only [hserve, hleft, boundedOutcomes, hm]
      refine ⟨⟨hf.bounded, hf.live, hf.bytes, hf.opened, fun h => by simp [hf0, hfin] at h⟩,
        by simp only [workLeft] at hwork ⊢; omega, by simp, fun _ => ⟨rfl, ?_⟩⟩
      simp [answersLeft, hf0, hfin, ahead]
    | malformed reason =>
      cases hp : f.spec.policy with
      | skip =>
        have hserve : f.serveRecord depth line rest = (f0, .ok none) := by
          simp [serveRecord, hm, hf0, hp]
        simp only [hserve, hleft, boundedOutcomes, hm, hp, hleft0]
        exact ⟨hinv, by omega, fun _ => rfl, by simp⟩
      | raise =>
        have hserve : f.serveRecord depth line rest =
            (f0, .error (malformedFailure reason (recordText line))) := by
          cases reason <;> simp [serveRecord, hm, hf0, hp, malformedFailure]
        simp only [hserve, hleft, boundedOutcomes, hm, hp, hleft0]
        exact ⟨hinv, by omega, by simp, fun _ => ⟨rfl, rfl⟩⟩

theorem data_bounded (f : ChangeFeed) (depth : Nat) (pieces rest : List Piece) (bs : List UInt8)
    (hf : f.BoundedReading) (hr : f.framer.records = []) (hfin : f.finished = false)
    (hread : f.reading = some pieces) (hdata : pieces.flatMap Piece.data = bs ++ rest.flatMap Piece.data)
    (hrest : ∀ p ∈ rest, ∃ bs, p = .bytes bs)
    (hwork : Piece.listWork rest + bs.length + 1 ≤ Piece.listWork pieces) :
    let f' : ChangeFeed := { f with reading := some rest, framer := f.framer.push bs }
    f'.BoundedReading ∧ f'.workLeft < f.workLeft ∧ f'.answersLeft depth = f.answersLeft depth := by
  intro f'
  have hahead : f'.ahead = f.ahead := by
    simp [f', ahead, hread, hdata, Framer.push_append]
  have hgrow := Framer.records_length_push f.framer bs
  rw [hr, List.length_nil, Nat.zero_add] at hgrow
  refine ⟨⟨hf.bounded, hf.live, hrest, fun _ => rfl, fun h => absurd h (by simp [f', hfin])⟩, ?_, ?_⟩
  · simp [f', workLeft, hfin, hr, hread]
    omega
  · simp only [answersLeft, hahead]
    rfl

theorem finished_bounded (f : ChangeFeed) (depth : Nat) (pieces : List Piece)
    (hf : f.BoundedReading) (hr : f.framer.records = []) (hfin : f.finished = false)
    (hread : f.reading = some pieces) (hdata : pieces.flatMap Piece.data = []) :
    let p := ({ f with reading := some [] } : ChangeFeed).endOfReply
    p.1.BoundedReading ∧ p.1.workLeft < f.workLeft ∧ p.1.finished = true ∧
      p.1.answersLeft depth = ((f.answersLeft depth).1.tail, (f.answersLeft depth).2) ∧
      (f.answersLeft depth).1 = p.2.toList.map .error := by
  intro p
  have hleft : f.answersLeft depth = (p.2.toList.map .error, f.lastSeq) := by
    simp [answersLeft, hfin, ahead, hread, hdata, hr, boundedOutcomes, p, ← cutOff_framer_tail]
  have hp : p.1 = { f with reading := none, framer := ⟨[], f.framer.records⟩, finished := true } := by
    simp [p, endOfReply_fst, hf.bounded]
  rw [hleft, hp]
  refine ⟨⟨hf.bounded, hf.live, by simp, by simp, fun _ => hr⟩, ?_, rfl, ?_, rfl⟩
  · simp [workLeft, hr, hread, hfin]
  · cases p.2 <;> simp [answersLeft]

end ChangeFeed

namespace Session

open ChangeFeed

theorem nextChangeWithin_bounded (base : Session) (name : String) (depth : Nat) :
    ∀ (fuel : Nat) (f : ChangeFeed), f.BoundedReading → f.workLeft < fuel →
      ∃ f', (nextChangeWithin name depth fuel).run (base.setFeed name f) =
          (answerOf (f.answersLeft (depth + 1)).1, base.setFeed name f') ∧ f'.BoundedReading ∧
        f'.answersLeft (depth + 1) =
          ((f.answersLeft (depth + 1)).1.tail, (f.answersLeft (depth + 1)).2) ∧
        ((f.answersLeft (depth + 1)).1 = [] → f'.finished = true) := by
  intro fuel
  induction fuel with
  | zero => intro f _ hw; omega
  | succ fuel ih =>
    intro f hf hw
    cases hr : f.framer.records with
    | cons line rest =>
      rw [nextChangeWithin_serve name depth fuel _ f line rest (by simp) hr]
      obtain ⟨hinv, hwork, hsilent, hanswer⟩ := serveRecord_bounded f (depth + 1) line rest hf hr
      generalize f.serveRecord (depth + 1) line rest = p at hinv hwork hsilent hanswer ⊢
      obtain ⟨f1, r⟩ := p
      dsimp only at hinv hwork hsilent hanswer ⊢
      by_cases hnone : r = .ok none
      · -- a silent record: the call goes on with what is left unchanged
        subst hnone
        obtain ⟨f', hrun, hinv', hleft', hend⟩ := ih f1 hinv (by omega)
        rw [hsilent rfl] at hrun hleft' hend
        exact ⟨f', by simpa using hrun, hinv', hleft', hend⟩
      · obtain ⟨hr1, hleft1⟩ := hanswer hnone
        refine ⟨f1, ?_, hinv, hleft1, fun hnil => absurd (by simpa [hnil, answerOf] using hr1) hnone⟩
        split
        · rename_i h
          exact absurd (Prod.mk.inj h).2 hnone
        · rename_i h
          cases h
          simp [hr1]
    | nil =>
      cases hfin : f.finished with
      | true =>
        rw [nextChangeWithin_stop name depth fuel _ f (by simp) hr (.inr hfin)]
        have hleft : f.answersLeft (depth + 1) = ([], f.lastSeq) := by simp [answersLeft, hfin]
        refine ⟨{ f with reading := none }, by simp [hleft, answerOf], ⟨hf.bounded, hf.live, by simp,
          by simp [hfin], fun _ => hr⟩, by simp [answersLeft, hfin], fun _ => hfin⟩
      | false =>
        obtain ⟨pieces, hread⟩ : ∃ pieces, f.reading = some pieces :=
          Option.isSome_iff_exists.mp (hf.opened hfin)
        have hbytes : ∀ p ∈ pieces, ∃ bs, p = .bytes bs := by simpa [hread] using hf.bytes
        rcases Piece.readOnce_bytes pieces hbytes with ⟨hone, hdata⟩ | ⟨bs, rest, hone, hdata, hrest, hwp⟩
        · -- the body has ended: the tail is judged and the feed finishes
          rw [nextChangeWithin_finished name depth fuel _ f pieces [] (by simp) hr hf.live hfin hread hone]
          obtain ⟨hinv, hwork, hfin1, hleft1, hout⟩ := finished_bounded f (depth + 1) pieces hf hr hfin hread hdata
          generalize ({ f with reading := some [] } : ChangeFeed).endOfReply = p at hinv hwork hfin1 hleft1 hout ⊢
          obtain ⟨f1, err⟩ := p
          dsimp only at hinv hwork hfin1 hleft1 hout ⊢
          cases err with
          | none =>
            simp only [Option.toList, List.map_nil] at hout
            obtain ⟨f', hrun, hinv', hleft', hend⟩ := ih f1 hinv (by omega)
            rw [hleft1, hout] at hrun hleft' hend
            exact ⟨f', by simpa [hout] using hrun, hinv', by simpa [hout] using hleft', fun _ => by simpa [hout] using hend rfl⟩
          | some e =>
            refine ⟨f1, by simp [hout, answerOf, Except.map], hinv, hleft1, fun h => hfin1⟩
        · -- a chunk: framed, with what is left unchanged
          rw [nextChangeWithin_data name depth fuel _ f pieces rest bs (by simp) hr hf.live hfin hread hone]
          obtain ⟨hinv, hwork, hleft1⟩ := data_bounded f (depth + 1) pieces rest bs hf hr hfin hread hdata hrest hwp
          obtain ⟨f', hrun, hinv', hleft', hend⟩ := ih _ hinv (by omega)
          rw [hleft1] at hrun hleft' hend
          exact ⟨f', by simpa using hrun, hinv', hleft', hend⟩

theorem nextChanges_bounded (base : Session) (name : String) (depth : Nat) :
    ∀ (k : Nat) (f : ChangeFeed), f.BoundedReading →
      ∃ f', (nextChanges name depth k).run (base.setFeed name f) =
          ((List.range k).map fun i => answerOf ((f.answersLeft (depth + 1)).1.drop i),
            base.setFeed name f') ∧ f'.BoundedReading ∧
        f'.answersLeft (depth + 1) = ((f.answersLeft (depth + 1)).1.drop k, (f.answersLeft (depth + 1)).2) ∧
        ((f.answersLeft (depth + 1)).1.length < k → f'.finished = true) := by
  intro k
  induction k with
  | zero => intro f hf; exact ⟨f, by simp, hf, by simp, by simp⟩
  | succ k ih =>
    intro f hf
    have hfuel : f.workLeft < (base.setFeed name f).workBound + 1 := by
      have := feedWork_lt_workBound base name f
      unfold workLeft
      split <;> omega
    obtain ⟨f1, hrun1, hinv1, hleft1, hend1⟩ :=
      nextChangeWithin_bounded base name depth _ f hf hfuel
    obtain ⟨f', hrun, hinv', hleft', hend'⟩ := ih f1 hinv1
    rw [hleft1] at hrun hleft' hend'
    refine ⟨f', ?_, hinv', by simpa using hleft', fun hlen => ?_⟩
    · rw [nextChanges_succ]
      simp only [hrun1, hrun, List.range_succ_eq_map, List.map_cons, List.map_map, List.drop_zero]
      congr
      funext i
      simp
    · cases hL : (f.answersLeft (depth + 1)).1 with
      | nil =>
        cases k with
        | zero =>
          have hsame : f1 = f' := by simpa using congrArg (fun p => p.2.feed? name) hrun
          exact hsame ▸ hend1 hL
        | succ k => exact hend' (by simp [hL])
      | cons o os =>
        exact hend' (by simp [hL] at hlen ⊢; omega)

theorem nextChange_opens (s s₁ : Session) (name : String) (f : ChangeFeed) (r : Reply) (depth : Nat)
    (hfeed : s.feed? name = some f) (hnew : f.Unopened) (hmode : f.spec.mode = .bounded)
    (hsend : (send "GET" (Percent.joinSegments [f.spec.db, "_changes"]) f.params .none).run s =
      (.ok (.reply r), s₁))
    (hstatus : r.status < 400) (hbytes : ∀ p ∈ r.pieces, ∃ bs, p = .bytes bs) :
    let f₁ : ChangeFeed := { f with reading := some r.pieces }
    f₁.BoundedReading ∧ ∃ f', (nextChangeWithin name depth (s.workBound + 1)).run s =
      (answerOf (f₁.answersLeft (depth + 1)).1, s₁.setFeed name f') ∧ f'.BoundedReading ∧
      f'.answersLeft (depth + 1) = ((f₁.answersLeft (depth + 1)).1.tail, (f₁.answersLeft (depth + 1)).2) ∧
      ((f₁.answersLeft (depth + 1)).1 = [] → f'.finished = true) := by
  intro f₁
  have hinv : f₁.BoundedReading :=
    ⟨hmode, hnew.live, hbytes, fun _ => rfl, fun h => by simp [f₁, hnew.unfinished] at h⟩
  obtain ⟨req, -, -, hscript, -⟩ := send_reply hsend
  have hwork : f₁.workLeft < s.workBound := by
    have := replyWork_lt_workBound s r s₁.script hscript
    simp [workLeft, f₁, hnew.empty, hnew.unfinished]
    omega
  refine ⟨hinv, ?_⟩
  rw [nextChangeWithin_open name depth _ s f hfeed (by simp [hnew.empty]) hnew.live hnew.unfinished hnew.closed,
    openFeed_reply hsend hstatus]
  exact nextChangeWithin_bounded s₁ name depth _ f₁ hinv hwork

/-- A new bounded feed answers its body's records in order, the tail's verdict, then the end. -/
theorem bounded_feed_answers (s s₁ : Session) (name : String) (f : ChangeFeed) (r : Reply)
    (chunks : List (List UInt8)) (depth k : Nat)
    (hfeed : s.feed? name = some f) (hnew : f.Unopened) (hmode : f.spec.mode = .bounded)
    (hsend : (send "GET" (Percent.joinSegments [f.spec.db, "_changes"]) f.params .none).run s =
      (.ok (.reply r), s₁))
    (hstatus : r.status < 400) (hbody : r.pieces = chunks.map .bytes) :
    let pieces := chunks.flatten.splitOn Framer.lineFeed
    let ref := boundedOutcomes f.spec (depth + 1) (pieces.getLast?.getD []) f.lastSeq
      (pieces.dropLast.filter Framer.isRecord)
    (∃ req, s₁.sent = s.sent ++ [req]) ∧
    ∃ s', (nextChanges name depth k).run s = ((List.range k).map fun i => answerOf (ref.1.drop i), s') ∧
      (0 < k → s'.sent = s₁.sent ∧ s'.script = s₁.script) ∧
      (ref.1.length < k → (s'.feed? name).map (·.lastSeq) = some ref.2) := by
  intro pieces ref
  have hbytes : ∀ p ∈ r.pieces, ∃ bs, p = .bytes bs := by simp [hbody]
  -- the reply's body framed from an empty buffer is the split of its bytes
  have href : ({ f with reading := some r.pieces } : ChangeFeed).answersLeft (depth + 1) = ref := by
    obtain ⟨lines, hsplit, hrec, -⟩ := Framer.push_splitOn {} chunks.flatten (by simp [Framer.tail])
    have hdata : r.pieces.flatMap Piece.data = chunks.flatten := by
      simp [hbody, List.flatMap_map, Piece.data]
    simp only [Framer.tail, List.reverse_nil, List.nil_append] at hsplit
    simp [answersLeft, hnew.unfinished, ahead, hdata, hnew.empty, ref, pieces, hsplit, hrec, Framer.tail]
  obtain ⟨req, -, -, -, hs₁⟩ := send_reply hsend
  refine ⟨⟨req, by rw [hs₁]⟩, ?_⟩
  cases k with
  | zero => exact ⟨s, by simp, by simp, by simp⟩
  | succ k =>
    obtain ⟨hinv, f1, hrun1, hinv1, hleft1, hend1⟩ :=
      nextChange_opens s s₁ name f r depth hfeed hnew hmode hsend hstatus hbytes
    obtain ⟨f', hrun, -, hleft', hend'⟩ := nextChanges_bounded s₁ name depth k f1 hinv1
    rw [href] at hrun1 hleft1 hend1
    rw [hleft1] at hrun hleft' hend'
    refine ⟨s₁.setFeed name f', ?_, fun _ => ⟨rfl, rfl⟩, fun hlen => ?_⟩
    · rw [nextChanges_succ]
      simp only [hrun1, hrun, List.range_succ_eq_map, List.map_cons, List.map_map, List.drop_zero]
      congr
      funext i
      simp
    · have hfin : f'.finished = true := by
        cases hL : ref.1 with
        | nil =>
          cases k with
          | zero =>
            have hsame : f1 = f' := by simpa using congrArg (fun p => p.2.feed? name) hrun
            exact hsame ▸ hend1 hL
          | succ k => exact hend' (by simp [hL])
        | cons o os => exact hend' (by simp [hL] at hlen ⊢; omega)
      have hlast : f'.answersLeft (depth + 1) = (ref.1.drop k |>.tail, ref.2) := by simpa using hleft'
      simp [answersLeft, hfin] at hlast
      simp [hlast.2]

/-- A change record cut inside a two-byte character, then the end of the batch. -/
theorem bounded_feed_answers_split_character :
    let f : ChangeFeed := { spec := ⟨"users", .envelope, .bounded, .bool false, .raise, []⟩,
                            lastSeq := .null }
    let chunks : List (List UInt8) :=
      [[0x7B, 0x22, 0x73, 0x65, 0x71, 0x22, 0x3A, 0x31, 0x2C, 0x22, 0x69, 0x64, 0x22, 0x3A, 0x22, 0xC3],
       [0xA9, 0x22, 0x7D, 0x0A, 0x7B, 0x22, 0x6C, 0x61, 0x73, 0x74, 0x5F, 0x73, 0x65, 0x71, 0x22, 0x3A,
        0x31, 0x7D, 0x0A]]
    let r : Reply := ⟨200, chunks.map .bytes⟩
    let s : Session := { base := { scheme := "http", host := "couch.test", path := "/" },
                         authorization := none, stem := .str "", script := [.reply r],
                         feeds := [("changes", f)] }
    let s₁ := ((send "GET" (Percent.joinSegments [f.spec.db, "_changes"]) f.params .none).run s).2
    s.feed? "changes" = some f ∧ f.Unopened ∧ f.spec.mode = .bounded ∧
      (send "GET" (Percent.joinSegments [f.spec.db, "_changes"]) f.params .none).run s =
        (.ok (.reply r), s₁) ∧ r.status < 400 ∧ r.pieces = chunks.map .bytes ∧
      let pieces := chunks.flatten.splitOn Framer.lineFeed
      let ref := boundedOutcomes f.spec 2 (pieces.getLast?.getD []) f.lastSeq
        (pieces.dropLast.filter Framer.isRecord)
      (∃ req, s₁.sent = s.sent ++ [req]) ∧
      ∃ s', (nextChanges "changes" 1 3).run s =
          ((List.range 3).map fun i => answerOf (ref.1.drop i), s') ∧
        (0 < 3 → s'.sent = s₁.sent ∧ s'.script = s₁.script) ∧
        (ref.1.length < 3 → (s'.feed? "changes").map (·.lastSeq) = some ref.2) := by
  intro f chunks r s s₁
  have hfeed : s.feed? "changes" = some f := rfl
  have hnew : f.Unopened := ⟨rfl, rfl, rfl, rfl⟩
  -- the request is answered: its query and URL are evaluated apart from the body's bytes
  have hsend : (send "GET" (Percent.joinSegments [f.spec.db, "_changes"]) f.params .none).run s =
      (.ok (.reply r), s₁) := by
    have hbase : s.base = { scheme := "http", host := "couch.test", path := "/" } := rfl
    have hpath : Percent.joinSegments [f.spec.db, "_changes"] = "users/_changes" := by decide +kernel
    have hparams : f.params = [(.str "feed", .str "continuous"), (.str "timeout", .int 0)] := by
      with_unfolding_all rfl
    have hq : requestQuery (s.base.join (Percent.joinSegments [f.spec.db, "_changes"])).query f.params =
        .ok (some "feed=continuous&timeout=0", [("feed", "continuous"), ("timeout", "0")]) := by
      rw [hbase, hpath, hparams]
      with_unfolding_all rfl
    have ht : Url.namesType ({ s.base.join (Percent.joinSegments [f.spec.db, "_changes"]) with
        query := some "feed=continuous&timeout=0" } : Url).text = true := by
      rw [hbase, hpath]
      decide +kernel
    obtain ⟨req, h⟩ := @send_of_reply "GET" _ _ .none _ _ _ _ _ hq ht rfl
    simp only [s₁, h]
  exact ⟨hfeed, hnew, rfl, hsend, by decide, rfl,
    bounded_feed_answers s s₁ "changes" f r chunks 1 3 hfeed hnew rfl hsend (by decide) rfl⟩

end Session

end DocClient
