import DocClient.Proofs.Changes.Cancel
import DocClient.Proofs.Changes.Lines
/-!
# The buffer of a feed holds no line feed

A line feed always closes the record in progress, so no feed's buffer holds one; every call
on a feed keeps this for every feed of the session (`runAll_buffersClear`).
-/
namespace DocClient

open Framer

theorem Framer.lineFeed_not_mem_tail_push {f : Framer} (h : lineFeed ∉ f.tail) (d : List UInt8) :
    lineFeed ∉ (f.push d).tail := by
  obtain ⟨-, -, -, hclear⟩ := push_splitOn f d h
  exact hclear

namespace ChangeFeed

@[simp] theorem tail_cancel (f : ChangeFeed) (drain : Bool) : (f.cancel drain).framer.tail = [] :=
  rfl

@[simp] theorem tail_endOfReply (f : ChangeFeed) : f.endOfReply.1.framer.tail = [] := by
  rw [endOfReply_fst]
  rfl

end ChangeFeed

namespace Session

/-- No feed of the session holds a line feed in its buffer. -/
def BuffersClear (s : Session) : Prop := ∀ p ∈ s.feeds, lineFeed ∉ p.2.framer.tail

variable {s s' : Session} {name : String} {f : ChangeFeed}

theorem BuffersClear.of_feeds (hs : s.BuffersClear) (h : s'.feeds = s.feeds) : s'.BuffersClear := by
  intro p hp
  rw [h] at hp
  exact hs p hp

theorem BuffersClear.setFeed (hs : s.BuffersClear) (name : String) (hf : lineFeed ∉ f.framer.tail) :
    (s.setFeed name f).BuffersClear := by
  intro p hp
  simp only [Session.setFeed, List.mem_append, List.mem_filter, List.mem_singleton] at hp
  rcases hp with ⟨hp, -⟩ | rfl
  · exact hs p hp
  · exact hf

theorem BuffersClear.feed? (hs : s.BuffersClear) (h : s.feed? name = some f) :
    lineFeed ∉ f.framer.tail := by
  obtain ⟨p, hp, rfl⟩ := Option.map_eq_some_iff.mp h
  exact hs p (List.mem_of_find?_eq_some hp)

theorem BuffersClear.cancelNamed {n : String} {d : Bool} (hs : s.BuffersClear)
    (h : s.cancelNamed n d = .ok s') : s'.BuffersClear := by
  obtain ⟨g, -, rfl⟩ := cancelNamed_ok h
  exact hs.setFeed n (by simp)

theorem cancelEach_buffersClear (cs : List (String × Bool)) (hs : s.BuffersClear) :
    ((cancelEach cs).run s).2.BuffersClear :=
  cancelEach_preserves BuffersClear (fun hc ht => ht.cancelNamed hc) cs hs

theorem readWhole_buffersClear (ps : List Piece) {x : Except Error (Except HttpFault (List UInt8))}
    (h : (readWhole ps).run.run s = (x, s')) (hs : s.BuffersClear) : s'.BuffersClear :=
  readWhole_preserves BuffersClear (fun hc ht => ht.cancelNamed hc) ps h hs

theorem send_buffersClear {method path : String} {params : List (Value × Value)}
    {body : RequestBody} {y : Except Error Scripted} (hs : s.BuffersClear)
    (h : (send method path params body).run s = (y, s')) : s'.BuffersClear := by
  rcases send_cases h with ⟨-, -, -, rfl⟩ | ⟨-, -, -, -, -, -, hfeeds, -⟩
  · exact hs
  · exact hs.of_feeds hfeeds

theorem openFeed_buffersClear {depth : Nat} (hs : s.BuffersClear) (hf : lineFeed ∉ f.framer.tail) :
    ((openFeed name f depth).run s).2.BuffersClear := by
  rcases hsend : (send "GET" (Percent.joinSegments [f.spec.db, "_changes"]) f.params .none).run s
    with ⟨y, s₂⟩
  have hs₂ := send_buffersClear hs hsend
  rw [openFeed, run_bind_run hsend]
  rcases y with e | r | fl | e
  · exact hs₂
  · by_cases hst : 400 ≤ r.status
    · simp only [hst, if_true]
      rcases hw : (readWhole r.pieces).run.run s₂ with ⟨w, s₃⟩
      have hs₃ := readWhole_buffersClear r.pieces hw hs₂
      rw [run_bind_run hw]
      split
      · exact hs₃
      · exact hs₃
      · split <;> exact hs₃
    · simp only [hst, if_false]
      exact hs₂.setFeed name hf
  · exact hs₂
  · exact hs₂

/-! ### One lemma per kind of round -/

section Rounds

variable {depth fuel : Nat}

theorem stop_buffersClear (hs : s.BuffersClear) (hf : s.feed? name = some f)
    (hr : f.framer.records = []) (hstop : f.cancelled = true ∨ f.finished = true) :
    ((nextChangeWithin name depth (fuel + 1)).run s).2.BuffersClear := by
  rw [nextChangeWithin_stop name depth fuel s f hf hr hstop]
  exact hs.setFeed name (show lineFeed ∉ f.framer.tail from hs.feed? hf)

/- The other rounds, each from a session whose buffers are clear, given that the remaining
rounds keep them clear from every such session. -/
variable (ih : ∀ s : Session, s.BuffersClear →
    ((nextChangeWithin name depth fuel).run s).2.BuffersClear)
include ih

theorem serve_buffersClear (hs : s.BuffersClear) (hf : s.feed? name = some f)
    {line : List UInt8} {rest : List (List UInt8)} (hr : f.framer.records = line :: rest) :
    ((nextChangeWithin name depth (fuel + 1)).run s).2.BuffersClear := by
  rw [nextChangeWithin_serve name depth fuel s f line rest hf hr]
  obtain ⟨-, -, -, hpend, -⟩ := ChangeFeed.serveRecord_fst f (depth + 1) line rest
  rcases hsv : f.serveRecord (depth + 1) line rest with ⟨f', r⟩
  rw [hsv] at hpend
  -- serving a record leaves the buffer as it was
  have hs' : (s.setFeed name f').BuffersClear := by
    refine hs.setFeed name ?_
    rw [Framer.tail, hpend]
    exact hs.feed? hf
  rcases r with e | _ | ev
  · exact hs'
  · exact ih _ hs'
  · exact hs'

theorem open_buffersClear (hs : s.BuffersClear) (hf : s.feed? name = some f)
    (hr : f.framer.records = []) (hc : f.cancelled = false) (hfin : f.finished = false)
    (hread : f.reading = none) :
    ((nextChangeWithin name depth (fuel + 1)).run s).2.BuffersClear := by
  rw [nextChangeWithin_open name depth fuel s f hf hr hc hfin hread]
  have hopen : ((openFeed name f depth).run s).2.BuffersClear :=
    openFeed_buffersClear hs (hs.feed? hf)
  rcases ho : (openFeed name f depth).run s with ⟨_ | _, s₁⟩
  · rw [ho] at hopen
    exact hopen
  · rw [ho] at hopen
    exact ih s₁ hopen

theorem read_buffersClear (hs : s.BuffersClear) (hf : s.feed? name = some f)
    (hr : f.framer.records = []) (hc : f.cancelled = false) (hfin : f.finished = false)
    {pieces : List Piece} (hread : f.reading = some pieces) :
    ((nextChangeWithin name depth (fuel + 1)).run s).2.BuffersClear := by
  -- the feed is taken apart so that its flags are the same constants everywhere
  obtain ⟨spec, lastSeq, framer, reading, cancelled, finished⟩ := f
  simp only at hc hfin hr hread
  subst hc hfin hread
  rw [nextChangeWithin]
  simp only [StateT.run_bind, StateT.run_get, hf, hr, pure_bind, Bool.or_false,
    Bool.false_eq_true, if_false]
  rcases hone : readOnce pieces with ⟨cs, res, rest⟩
  have hs₁ : (s.setFeed name ⟨spec, lastSeq, framer, some rest, false, false⟩).BuffersClear :=
    hs.setFeed name (show lineFeed ∉ framer.tail from hs.feed? hf)
  rcases hce : (cancelEach cs).run (s.setFeed name ⟨spec, lastSeq, framer, some rest, false, false⟩)
    with ⟨x, s₂⟩
  have hs₂ : s₂.BuffersClear := by
    have := cancelEach_buffersClear cs hs₁
    rwa [hce] at this
  have hce' : (cancelEach cs).run (s.setFeed name ⟨spec, lastSeq, framer, some rest, false, false⟩) =
      pure (x, s₂) := hce
  simp only [StateT.run_set, pure_bind, hce']
  -- a crash marks the reply of the feed, if the session still holds it, as read to its end
  have hcrash : ∀ g, s₂.feed? name = some g →
      (s₂.setFeed name { g with reading := some [] }).BuffersClear :=
    fun g hg => hs₂.setFeed name (show lineFeed ∉ g.framer.tail from hs₂.feed? hg)
  split
  · simp only [StateT.run_bind, StateT.run_modify, pure_bind]
    split
    · exact hcrash _ ‹_›
    · exact hs₂
  · simp only [StateT.run_bind, StateT.run_modify, pure_bind]
    split
    · exact hcrash _ ‹_›
    · exact hs₂
  · simp only [StateT.run_bind, StateT.run_get, pure_bind]
    split
    · exact hs₂
    · rename_i f₂ hf₂
      have hclear := hs₂.feed? hf₂
      split
      · exact ih s₂ hs₂
      · split
        · -- a chunk: the framer closes a record at each of its line feeds
          rename_i bs _
          simp only [StateT.run_bind, StateT.run_set, pure_bind]
          exact ih _ (hs₂.setFeed name (lineFeed_not_mem_tail_push hclear bs))
        · -- the end of the body drops the partial record
          simp only [StateT.run_bind, StateT.run_set, pure_bind]
          have hend : (s₂.setFeed name f₂.endOfReply.1).BuffersClear :=
            hs₂.setFeed name (by simp)
          split
          · exact hend
          · exact ih _ hend
        · simp only [StateT.run_bind, StateT.run_modify, pure_bind]
          split
          · exact hcrash _ ‹_›
          · exact hs₂
        · split
          · simp only [StateT.run_bind, StateT.run_set, pure_bind]
            exact ih _ (hs₂.setFeed name (by simp))
          · simp only [StateT.run_bind, StateT.run_set, pure_bind]
            exact hs₂.setFeed name hclear

end Rounds

theorem nextChangeWithin_buffersClear (name : String) (depth : Nat) :
    ∀ (fuel : Nat) (s : Session), s.BuffersClear →
      ((nextChangeWithin name depth fuel).run s).2.BuffersClear
  | 0, _, hs => hs
  | fuel + 1, s, hs => by
    have ih := nextChangeWithin_buffersClear name depth fuel
    cases hf : s.feed? name with
    | none =>
      rw [nextChangeWithin]
      simp only [StateT.run_bind, StateT.run_get, hf, pure_bind]
      exact hs
    | some f =>
      cases hr : f.framer.records with
      | cons line rest => exact serve_buffersClear ih hs hf hr
      | nil =>
        cases hc : f.cancelled with
        | true => exact stop_buffersClear hs hf hr (.inl hc)
        | false =>
          cases hfin : f.finished with
          | true => exact stop_buffersClear hs hf hr (.inr hfin)
          | false =>
            cases hread : f.reading with
            | none => exact open_buffersClear ih hs hf hr hc hfin hread
            | some pieces => exact read_buffersClear ih hs hf hr hc hfin hread

theorem nextChange_buffersClear (name : String) (depth : Nat) (hs : s.BuffersClear) :
    ((nextChange name depth).run s).2.BuffersClear := by
  rw [nextChange_run]
  exact nextChangeWithin_buffersClear name depth _ s hs

theorem cancelFeed_buffersClear (name : String) (drain : Bool) (hs : s.BuffersClear) :
    ((cancelFeed name drain).run s).2.BuffersClear := by
  cases hf : s.feed? name with
  | none =>
    simp only [cancelFeed, StateT.run_modify, hf]
    exact hs
  | some f =>
    rw [cancelFeed_run hf]
    exact hs.setFeed name (by simp)

theorem closeFeed_buffersClear (name : String) (hs : s.BuffersClear) :
    ((closeFeed name).run s).2.BuffersClear := by
  cases hf : s.feed? name with
  | none =>
    simp only [closeFeed, StateT.run_modify, hf]
    exact hs
  | some f =>
    rw [closeFeed_run hf]
    exact hs.setFeed name (by simp)

end Session

namespace FeedCall

open Session

theorem run_buffersClear {s : Session} (name : String) (depth : Nat) (c : FeedCall)
    (hs : s.BuffersClear) : ((c.run name depth).run s).2.BuffersClear := by
  cases c with
  | next =>
    rw [run_next]
    exact nextChange_buffersClear name depth hs
  | cancel drain =>
    show (((fun _ => none) <$> cancelFeed name drain).run s).2.BuffersClear
    rw [StateT.run_map]
    exact cancelFeed_buffersClear name drain hs
  | close =>
    show (((fun _ => none) <$> closeFeed name).run s).2.BuffersClear
    rw [StateT.run_map]
    exact closeFeed_buffersClear name hs

/-- Every run of calls keeps the buffers of all feeds free of line feeds. -/
theorem runAll_buffersClear (name : String) (depth : Nat) :
    ∀ (cs : List FeedCall) (s : Session), s.BuffersClear →
      ((runAll name depth cs).run s).2.BuffersClear
  | [], _, hs => hs
  | c :: cs, s, hs => by
    rw [runAll_cons]
    exact runAll_buffersClear name depth cs _ (run_buffersClear name depth c hs)

end FeedCall

end DocClient
