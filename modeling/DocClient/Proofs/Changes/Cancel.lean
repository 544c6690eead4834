import DocClient.Proofs.Changes.Bounded
import DocClient.Proofs.Changes.Requests
/-!
# Cancelling a change feed

A cancelled feed reads nothing more: drained, it delivers its queue and ends, otherwise it
ends at once, and an ended feed stays ended (`cancelled_feed_stays_ended`). The rounds of a
call never run out, as each round lowers `Session.roundWork`.
-/
namespace DocClient

namespace Piece

theorem readOnce_work : ∀ (ps : List Piece) {cs : List (String × Bool)} {res : ReadResult}
    {rest : List Piece}, readOnce ps = (cs, res, rest) →
    listWork rest + cs.length ≤ listWork ps ∧
      ∀ bs, res = .data bs → listWork rest + bs.length + 1 ≤ listWork ps
  | [], cs, res, rest, h => by
    cases h
    exact ⟨Nat.le_refl _, fun _ h => by cases h⟩
  | .bytes [] :: ps, cs, res, rest, h => by
    obtain ⟨hle, hdata⟩ := readOnce_work ps h
    refine ⟨?_, fun bs hbs => ?_⟩
    · simp only [listWork_cons, work]
      omega
    · have := hdata bs hbs
      simp only [listWork_cons, work]
      omega
  | .bytes (b :: bs) :: ps, cs, res, rest, h => by
    cases h
    refine ⟨?_, fun bs' hbs => ?_⟩
    · simp only [listWork_cons, work, List.length_nil]
      omega
    · cases hbs
      simp only [listWork_cons, work]
      omega
  | .fault fl :: ps, cs, res, rest, h => by
    cases h
    refine ⟨?_, fun _ h => by cases h⟩
    simp only [listWork_cons, work, List.length_nil]
    omega
  | .crash e :: ps, cs, res, rest, h => by
    cases h
    refine ⟨?_, fun _ h => by cases h⟩
    simp only [listWork_cons, work, List.length_nil]
    omega
  | .cancel n d :: ps, cs, res, rest, h => by
    rcases hr : readOnce ps with ⟨cs', res', rest'⟩
    rw [readOnce, hr] at h
    cases h
    obtain ⟨hle, hdata⟩ := readOnce_work ps hr
    refine ⟨?_, fun bs hbs => ?_⟩
    · simp only [listWork_cons, work, List.length_cons]
      omega
    · have := hdata bs hbs
      simp only [listWork_cons, work]
      omega

end Piece

/-- The work of a scripted move's body: a reply's pieces, and nothing for a failure. -/
def Scripted.bodyWork : Scripted → Nat
  | .reply r => Piece.listWork r.pieces
  | _ => 0

namespace ChangeFeed

/-- The rounds a feed can still take on what it holds. -/
def roundWork (f : ChangeFeed) : Nat :=
  f.framer.records.length + match f.reading with
    | none => 0
    | some ps => Piece.listWork ps + 1

theorem roundWork_closed {f : ChangeFeed} (h : f.reading = none) :
    f.roundWork = f.framer.records.length := by
  simp [roundWork, h]

theorem roundWork_reading {f : ChangeFeed} {ps : List Piece} (h : f.reading = some ps) :
    f.roundWork = f.framer.records.length + Piece.listWork ps + 1 := by
  simp only [roundWork, h]
  omega

theorem roundWork_cancel (f : ChangeFeed) (d : Bool) : (f.cancel d).roundWork ≤ f.roundWork := by
  cases d <;> simp [roundWork, cancel]

theorem cancel_cancel (f : ChangeFeed) (d e : Bool) : (f.cancel d).cancel e = f.cancel (d && e) := by
  cases d <;> cases e <;> rfl

/-- A feed that gives nothing more on its own: nothing framed, cancelled or finished. -/
structure Silent (f : ChangeFeed) : Prop where
  records : f.framer.records = []
  stopped : f.cancelled = true ∨ f.finished = true

/-- What a call keeps of a feed: what it follows, a cancellation, a continuous feed unfinished. -/
structure Keeps (f g : ChangeFeed) : Prop where
  spec : g.spec = f.spec
  cancelled : f.cancelled = true → g.cancelled = true
  finished : g.finished = true → f.finished = true ∨ f.spec.mode = .bounded

theorem Keeps.trans {f g k : ChangeFeed} (h₁ : Keeps f g) (h₂ : Keeps g k) : Keeps f k := by
  refine ⟨h₂.spec.trans h₁.spec, h₂.cancelled ∘ h₁.cancelled, fun h => ?_⟩
  rcases h₂.finished h with hg | hb
  · exact h₁.finished hg
  · rw [h₁.spec] at hb
    exact .inr hb

theorem Keeps.of_live {f g : ChangeFeed} (hspec : g.spec = f.spec) (hc : f.cancelled = false)
    (hfin : g.finished = false) : Keeps f g :=
  ⟨hspec, fun h => absurd (hc.symm.trans h) Bool.false_ne_true,
    fun h => absurd (hfin.symm.trans h) Bool.false_ne_true⟩

theorem Keeps.endOfReply (f : ChangeFeed) : Keeps f f.endOfReply.1 := by
  rw [endOfReply_fst]
  exact ⟨rfl, id, fun h => by simpa using h⟩

theorem roundWork_endOfReply (f : ChangeFeed) :
    f.endOfReply.1.roundWork = f.framer.records.length := by
  rw [endOfReply_fst, roundWork_closed rfl]

theorem serveRecord_fst (f : ChangeFeed) (d : Nat) (line : List UInt8) (rest : List (List UInt8)) :
    (f.serveRecord d line rest).1.spec = f.spec ∧
      (f.serveRecord d line rest).1.cancelled = f.cancelled ∧
      (f.serveRecord d line rest).1.reading = f.reading ∧
      (f.serveRecord d line rest).1.framer.pendingBytes = f.framer.pendingBytes ∧
      (f.serveRecord d line rest).1.framer.records.length ≤ rest.length ∧
      ((f.serveRecord d line rest).1.finished = true →
        f.finished = true ∨ f.spec.mode = .bounded) := by
  unfold serveRecord
  dsimp only
  split
  · exact ⟨rfl, rfl, rfl, rfl, Nat.le_refl _, .inl⟩
  · split
    · rename_i hb
      exact ⟨rfl, rfl, rfl, rfl, Nat.zero_le _, fun _ => .inr hb⟩
    · exact ⟨rfl, rfl, rfl, rfl, Nat.le_refl _, .inl⟩
  · split
    · exact ⟨rfl, rfl, rfl, rfl, Nat.le_refl _, .inl⟩
    · split <;> exact ⟨rfl, rfl, rfl, rfl, Nat.le_refl _, .inl⟩
  · exact ⟨rfl, rfl, rfl, rfl, Nat.le_refl _, .inl⟩

/-- The outcomes a cancelled feed gives for the records it has queued, in order. -/
def drainOutcomes (spec : FeedSpec) (depth : Nat) : List (List UInt8) → List (Except Error ChangeEvent)
  | [] => []
  | line :: lines =>
    match readRecord depth spec.adapter (recordText line) with
    | .error e => .error e :: drainOutcomes spec depth lines
    | .ok (.batchEnd _) => if spec.mode = .bounded then [] else drainOutcomes spec depth lines
    | .ok (.malformed reason) =>
      match spec.policy with
      | .skip => drainOutcomes spec depth lines
      | .raise => .error (malformedFailure reason (recordText line)) :: drainOutcomes spec depth lines
    | .ok (.change ev) => .ok ev :: drainOutcomes spec depth lines

theorem serveRecord_drain (f : ChangeFeed) (d : Nat) (line : List UInt8) (rest : List (List UInt8)) :
    ((f.serveRecord d line rest).2 = .ok none ∧
        drainOutcomes f.spec d (f.serveRecord d line rest).1.framer.records =
          drainOutcomes f.spec d (line :: rest)) ∨
      ((f.serveRecord d line rest).2 = answerOf (drainOutcomes f.spec d (line :: rest)) ∧
        (f.serveRecord d line rest).2 ≠ .ok none ∧
        drainOutcomes f.spec d (f.serveRecord d line rest).1.framer.records =
          (drainOutcomes f.spec d (line :: rest)).tail) := by
  cases hm : readRecord d f.spec.adapter (recordText line) with
  | error e =>
    refine .inr ⟨?_, ?_, ?_⟩ <;> simp [serveRecord, drainOutcomes, hm, answerOf, Except.map]
  | ok m =>
    cases m with
    | batchEnd last =>
      by_cases hb : f.spec.mode = .bounded
      · refine .inl ⟨?_, ?_⟩ <;> simp [serveRecord, drainOutcomes, hm, hb]
      · refine .inl ⟨?_, ?_⟩ <;> simp [serveRecord, drainOutcomes, hm, hb]
    | change ev =>
      refine .inr ⟨?_, ?_, ?_⟩ <;> simp [serveRecord, drainOutcomes, hm, answerOf, Except.map]
    | malformed reason =>
      cases hp : f.spec.policy with
      | skip => refine .inl ⟨?_, ?_⟩ <;> simp [serveRecord, drainOutcomes, hm, hp]
      | raise =>
        refine .inr ⟨?_, ?_, ?_⟩ <;> cases reason <;>
          simp [serveRecord, drainOutcomes, hm, hp, answerOf, Except.map, malformedFailure]

end ChangeFeed

namespace Session

open ChangeFeed

/-- The work of a script: two for each move and the work of its body. -/
def scriptWork : List Scripted → Nat
  | [] => 0
  | m :: ms => m.bodyWork + 2 + scriptWork ms

/-- The work of the feeds a session holds. -/
def feedsWork : List (String × ChangeFeed) → Nat
  | [] => 0
  | (_, f) :: fs => f.roundWork + feedsWork fs

/-- What a session can still give a call for the next change: its script and its feeds. -/
def roundWork (s : Session) : Nat := scriptWork s.script + feedsWork s.feeds

theorem scriptWork_foldl : ∀ (l : List Scripted) (a : Nat),
    l.foldl (fun n r => n + 2 + r.bodyWork) a = a + scriptWork l
  | [], a => rfl
  | m :: ms, a => by
    rw [List.foldl_cons, scriptWork_foldl ms, scriptWork]
    omega

theorem feedsWork_le_foldl : ∀ (l : List (String × ChangeFeed)) (a : Nat),
    a + feedsWork l ≤ l.foldl (fun n f => n + 2 + f.2.framer.records.length +
      Piece.listWork (f.2.reading.getD [])) a
  | [], a => Nat.le_refl a
  | (n, f) :: fs, a => by
    rw [List.foldl_cons, feedsWork]
    dsimp only
    have hf : f.roundWork ≤ 2 + f.framer.records.length + Piece.listWork (f.reading.getD []) := by
      cases h : f.reading with
      | none => rw [roundWork_closed h]; omega
      | some ps => rw [roundWork_reading h, Option.getD_some]; omega
    have := feedsWork_le_foldl fs (a + 2 + f.framer.records.length + Piece.listWork (f.reading.getD []))
    omega

theorem roundWork_lt_workBound (s : Session) : s.roundWork < s.workBound + 1 := by
  have hbound : s.workBound = 2 * (s.script.foldl (fun n r => n + 2 + r.bodyWork) 0 +
      s.feeds.foldl (fun n f => n + 2 + f.2.framer.records.length +
        Piece.listWork (f.2.reading.getD [])) 0) + 4 := workBound_eq s
  have hs := scriptWork_foldl s.script 0
  have hf := feedsWork_le_foldl s.feeds 0
  unfold roundWork
  omega

theorem feedsWork_append : ∀ (l₁ l₂ : List (String × ChangeFeed)),
    feedsWork (l₁ ++ l₂) = feedsWork l₁ + feedsWork l₂
  | [], l₂ => (Nat.zero_add _).symm
  | (n, f) :: l₁, l₂ => by
    rw [List.cons_append, feedsWork, feedsWork, feedsWork_append l₁ l₂, Nat.add_assoc]

theorem feedsWork_filter_le (p : String × ChangeFeed → Bool) :
    ∀ l : List (String × ChangeFeed), feedsWork (l.filter p) ≤ feedsWork l
  | [] => Nat.le_refl 0
  | (n, f) :: l => by
    have := feedsWork_filter_le p l
    rw [List.filter_cons]
    split
    · rw [feedsWork, feedsWork]
      omega
    · rw [feedsWork]
      omega

theorem feedsWork_filter_named {name : String} {f : ChangeFeed} :
    ∀ l : List (String × ChangeFeed), (l.find? (·.1 = name)).map (·.2) = some f →
      feedsWork (l.filter (·.1 != name)) + f.roundWork ≤ feedsWork l
  | [], h => by cases h
  | (n, g) :: l, h => by
    by_cases hn : n = name
    · -- the head is the feed named, and the rest only loses entries
      subst hn
      simp only [List.find?_cons, decide_true, Option.map_some, Option.some.injEq] at h
      subst h
      have := feedsWork_filter_le (·.1 != n) l
      simp only [List.filter_cons, bne_self_eq_false, Bool.false_eq_true, if_false, feedsWork]
      omega
    · have hne : (n != name) = true := bne_iff_ne.mpr hn
      simp only [List.find?_cons, hn] at h
      have := feedsWork_filter_named l h
      simp only [List.filter_cons, hne, if_true, feedsWork]
      omega

theorem roundWork_setFeed {s : Session} {name : String} {f : ChangeFeed}
    (hf : s.feed? name = some f) (g : ChangeFeed) :
    (s.setFeed name g).roundWork + f.roundWork ≤ s.roundWork + g.roundWork := by
  have h := feedsWork_filter_named s.feeds hf
  simp only [roundWork, setFeed, feedsWork_append, feedsWork]
  omega

theorem feed?_setFeed_ne (s : Session) {n name : String} (h : n ≠ name) (g : ChangeFeed) :
    (s.setFeed n g).feed? name = s.feed? name := by
  have hkeep : ∀ l : List (String × ChangeFeed),
      (l.filter (·.1 != n)).find? (·.1 = name) = l.find? (·.1 = name) := by
    intro l
    induction l with
    | nil => rfl
    | cons x l ih =>
      by_cases hx : x.1 = n
      · simp [hx, h, ih]
      · simp [hx, List.find?_cons, ih]
  simp [feed?, setFeed, List.find?_append, hkeep, h]

theorem cancelNamed_ok {s s' : Session} {n : String} {d : Bool} (h : s.cancelNamed n d = .ok s') :
    ∃ g, s.feed? n = some g ∧ s' = s.setFeed n (g.cancel d) := by
  unfold cancelNamed at h
  split at h
  · rename_i g hg
    cases h
    exact ⟨g, hg, rfl⟩
  · split at h <;> cases h

theorem isSome_feed?_setFeed (s : Session) (n : String) (g : ChangeFeed) {m : String}
    (h : (s.feed? m).isSome) : ((s.setFeed n g).feed? m).isSome := by
  by_cases hm : n = m
  · subst hm
    simp
  · rw [feed?_setFeed_ne s hm]
    exact h

theorem cancelEach_ok : ∀ (cs : List (String × Bool)) (s : Session),
    (∀ p ∈ cs, (s.feed? p.1).isSome) → ((cancelEach cs).run s).1 = .ok ()
  | [], _, _ => rfl
  | (n, d) :: rest, s, h => by
    obtain ⟨g, hg⟩ := Option.isSome_iff_exists.mp (h (n, d) List.mem_cons_self)
    have hc : s.cancelNamed n d = .ok (s.setFeed n (g.cancel d)) := by
      simp [cancelNamed, hg]
    simp only [cancelEach, StateT.run_bind, StateT.run_get, pure_bind, hc, StateT.run_set]
    exact cancelEach_ok rest _ fun p hp =>
      isSome_feed?_setFeed s n _ (h p (List.mem_cons_of_mem _ hp))

theorem cancelEach_feed {name : String} : ∀ (cs : List (String × Bool)) {s s' : Session}
    {x : Except Error Unit} {g : ChangeFeed}, (cancelEach cs).run s = (x, s') →
    s.feed? name = some g →
    s'.roundWork ≤ s.roundWork ∧ ∃ g', s'.feed? name = some g' ∧
      (g' = g ∨ ∃ d, g' = g.cancel d) ∧
      (x = .ok () → (∃ d, (name, d) ∈ cs) → g'.cancelled = true)
  | [], s, s', x, g, h, hg => by
    cases h
    exact ⟨Nat.le_refl _, g, hg, .inl rfl, fun _ ⟨d, hd⟩ => absurd hd List.not_mem_nil⟩
  | (n, d) :: rest, s, s', x, g, h, hg => by
    simp only [cancelEach, StateT.run_bind, StateT.run_get, pure_bind] at h
    cases hc : s.cancelNamed n d with
    | error e =>
      rw [hc] at h
      cases h
      exact ⟨Nat.le_refl _, g, hg, .inl rfl, fun h => by cases h⟩
    | ok s₁ =>
      rw [hc] at h
      simp only [StateT.run_bind, StateT.run_set, pure_bind] at h
      obtain ⟨k, hk, rfl⟩ := cancelNamed_ok hc
      have hwork₁ : (s.setFeed n (k.cancel d)).roundWork ≤ s.roundWork := by
        have := roundWork_setFeed hk (k.cancel d)
        have := roundWork_cancel k d
        omega
      -- the feed after the first cancellation: cancelled if it is the one named
      obtain ⟨g₁, hg₁, hform₁, hnamed⟩ : ∃ g₁, (s.setFeed n (k.cancel d)).feed? name = some g₁ ∧
          (g₁ = g ∨ ∃ d', g₁ = g.cancel d') ∧ (n = name → g₁.cancelled = true) := by
        by_cases hn : n = name
        · subst hn
          rw [hk] at hg
          cases hg
          exact ⟨_, feed?_setFeed .., .inr ⟨d, rfl⟩, fun _ => rfl⟩
        · exact ⟨g, by rw [feed?_setFeed_ne s hn, hg], .inl rfl, fun h => absurd h hn⟩
      obtain ⟨hwork, g', hg', hform', hcancel⟩ := cancelEach_feed rest h hg₁
      refine ⟨Nat.le_trans hwork hwork₁, g', hg', ?_, fun hx hmem => ?_⟩
      · rcases hform₁ with rfl | ⟨d₁, rfl⟩
        · exact hform'
        · rcases hform' with rfl | ⟨d₂, rfl⟩
          · exact .inr ⟨d₁, rfl⟩
          · exact .inr ⟨d₁ && d₂, cancel_cancel g d₁ d₂⟩
      · obtain ⟨d', hd'⟩ := hmem
        rcases List.mem_cons.mp hd' with heq | hrest
        · -- the first cancellation named the feed, and a later one keeps it cancelled
          have hn : n = name := (Prod.mk.inj heq).1.symm
          rcases hform' with rfl | ⟨d₂, rfl⟩
          · exact hnamed hn
          · rfl
        · exact hcancel hx ⟨d', hrest⟩

/-- What one round of a call for the next change of the named feed leads to. -/
def Round (name : String) (depth fuel : Nat) (s : Session) (f : ChangeFeed)
    (p : Except Error (Option ChangeEvent) × Session) : Prop :=
  (∃ s₁ f₁, p = (nextChangeWithin name depth fuel).run s₁ ∧ s₁.feed? name = some f₁ ∧
      Keeps f f₁ ∧ s₁.roundWork < s.roundWork) ∨
    (p.1 = .ok none → ∃ f₁, p.2.feed? name = some f₁ ∧ Keeps f f₁ ∧ Silent f₁ ∧ f₁.reading = none)

section Rounds

variable {name : String} {depth fuel : Nat} {s : Session} {f : ChangeFeed}

theorem Round.goes_on {s₂ : Session} {f₂ g : ChangeFeed} (hf₂ : s₂.feed? name = some f₂)
    (hkeep : Keeps f g) (hlt : s₂.roundWork + g.roundWork < s.roundWork + f₂.roundWork) :
    Round name depth fuel s f ((nextChangeWithin name depth fuel).run (s₂.setFeed name g)) := by
  have := roundWork_setFeed hf₂ g
  exact .inl ⟨_, g, rfl, feed?_setFeed .., hkeep, by omega⟩

theorem serve_round (hf : s.feed? name = some f) {line : List UInt8} {rest : List (List UInt8)}
    (hr : f.framer.records = line :: rest) :
    Round name depth fuel s f ((nextChangeWithin name depth (fuel + 1)).run s) := by
  rw [nextChangeWithin_serve name depth fuel s f line rest hf hr]
  obtain ⟨hspec, hcancel, hreading, -, hlen, hfin⟩ := serveRecord_fst f (depth + 1) line rest
  rcases hsv : f.serveRecord (depth + 1) line rest with ⟨f', r⟩
  rw [hsv] at hspec hcancel hreading hlen hfin
  dsimp only at hspec hcancel hreading hlen hfin
  have hkeep : Keeps f f' := ⟨hspec, fun h => hcancel.trans h, hfin⟩
  rcases r with e | _ | ev
  · exact .inr fun h => by cases h
  · -- nothing given: the record is used up, so the work falls
    have hwork : f'.roundWork < f.roundWork := by
      unfold ChangeFeed.roundWork
      rw [hreading, hr, List.length_cons]
      omega
    exact Round.goes_on hf hkeep (by omega)
  · exact .inr fun h => by cases h

theorem stop_round (hf : s.feed? name = some f) (hr : f.framer.records = [])
    (hstop : f.cancelled = true ∨ f.finished = true) :
    Round name depth fuel s f ((nextChangeWithin name depth (fuel + 1)).run s) := by
  rw [nextChangeWithin_stop name depth fuel s f hf hr hstop]
  exact .inr fun _ => ⟨_, feed?_setFeed .., ⟨rfl, id, .inl⟩, ⟨hr, hstop⟩, rfl⟩

theorem open_round (hf : s.feed? name = some f) (hr : f.framer.records = [])
    (hc : f.cancelled = false) (hfin : f.finished = false) (hread : f.reading = none) :
    Round name depth fuel s f ((nextChangeWithin name depth (fuel + 1)).run s) := by
  rw [nextChangeWithin_open name depth fuel s f hf hr hc hfin hread]
  rcases hs : (send "GET" (Percent.joinSegments [f.spec.db, "_changes"]) f.params .none).run s
    with ⟨y, s₃⟩
  rcases ho : (openFeed name f depth).run s with ⟨x, s₂⟩
  rcases x with e | ⟨⟩
  · exact .inr fun h => by cases h
  · rcases openFeed_cases hs ho with ⟨r, rfl, -, -, rfl⟩ | ⟨e, he, -⟩
    · obtain ⟨req, -, -, hscript, hs₃⟩ := send_reply hs
      have hf₃ : s₃.feed? name = some f := by
        rw [hs₃]
        exact hf
      have hmove : s.roundWork = Piece.listWork r.pieces + 2 + s₃.roundWork := by
        rw [hs₃]
        simp only [roundWork, hscript, scriptWork, Scripted.bodyWork]
        omega
      have hf₁ : ({ f with reading := some r.pieces } : ChangeFeed).roundWork =
          Piece.listWork r.pieces + 1 := by
        rw [roundWork_reading rfl]
        simp [hr]
      have hf₀ : f.roundWork = 0 := by
        rw [roundWork_closed hread, hr, List.length_nil]
      exact Round.goes_on hf₃ ⟨rfl, id, .inl⟩ (by omega)
    · cases he

theorem read_round (hf : s.feed? name = some f) (hr : f.framer.records = [])
    (hc : f.cancelled = false) (hfin : f.finished = false) {pieces : List Piece}
    (hread : f.reading = some pieces) :
    Round name depth fuel s f ((nextChangeWithin name depth (fuel + 1)).run s) := by
  -- the feed is taken apart so that its flags are the same constants everywhere
  obtain ⟨spec, lastSeq, framer, reading, cancelled, finished⟩ := f
  simp only at hc hfin hr hread
  subst hc hfin hread
  rw [nextChangeWithin]
  simp only [StateT.run_bind, StateT.run_get, hf, hr, pure_bind, Bool.or_false,
    Bool.false_eq_true, if_false]
  rcases hone : readOnce pieces with ⟨cs, res, rest⟩
  rcases hce : (cancelEach cs).run (s.setFeed name ⟨spec, lastSeq, framer, some rest, false, false⟩)
    with ⟨x, s₂⟩
  have hce' : (cancelEach cs).run (s.setFeed name ⟨spec, lastSeq, framer, some rest, false, false⟩) =
      pure (x, s₂) := hce
  simp only [StateT.run_set, pure_bind, hce']
  -- what the cancellations made of the feed, and the work the read used up
  obtain ⟨hwork₂, f₂, hf₂, hform, -⟩ := cancelEach_feed cs hce (feed?_setFeed ..)
  obtain ⟨hused, hchunk⟩ := Piece.readOnce_work pieces hone
  have hwork₁ := roundWork_setFeed hf ⟨spec, lastSeq, framer, some rest, false, false⟩
  have hwork : (⟨spec, lastSeq, framer, some pieces, false, false⟩ : ChangeFeed).roundWork =
      Piece.listWork pieces + 1 := by
    rw [roundWork_reading rfl, hr, List.length_nil, Nat.zero_add]
  have hleft : (⟨spec, lastSeq, framer, some rest, false, false⟩ : ChangeFeed).roundWork =
      Piece.listWork rest + 1 := by
    rw [roundWork_reading rfl, hr, List.length_nil, Nat.zero_add]
  have hkeep₂ : Keeps ⟨spec, lastSeq, framer, some pieces, false, false⟩ f₂ := by
    rcases hform with rfl | ⟨d, rfl⟩ <;> exact Keeps.of_live rfl rfl rfl
  split
  · exact .inr fun h => by cases h
  · exact .inr fun h => by cases h
  · simp only [StateT.run_bind, StateT.run_get, pure_bind, hf₂]
    split
    · -- cancelled during the read: the read met a cancellation, and the rounds go on
      rename_i hcancel
      have hcs : 0 < cs.length := by
        rcases cs with _ | ⟨c, cs⟩
        · have hs₂ : s₂ = s.setFeed name ⟨spec, lastSeq, framer, some rest, false, false⟩ :=
            (Prod.mk.inj hce.symm).2
          subst hs₂
          rw [feed?_setFeed] at hf₂
          cases hf₂
          cases hcancel
        · exact Nat.succ_pos _
      exact .inl ⟨s₂, f₂, rfl, hf₂, hkeep₂, by omega⟩
    · -- not cancelled: the feed is as the read left it
      rename_i hnot
      have hf₂eq : f₂ = ⟨spec, lastSeq, framer, some rest, false, false⟩ := by
        rcases hform with h | ⟨d, rfl⟩
        · exact h
        · exact absurd rfl hnot
      subst hf₂eq
      split
      · -- a chunk: framed, with the work of its bytes used up
        rename_i bs _
        simp only [StateT.run_bind, StateT.run_set, pure_bind]
        have hgrow := Framer.records_length_push framer bs
        have hpushed : (⟨spec, lastSeq, framer.push bs, some rest, false, false⟩ : ChangeFeed).roundWork =
            (framer.push bs).records.length + Piece.listWork rest + 1 :=
          roundWork_reading rfl
        have hb := hchunk bs rfl
        simp only [hr, List.length_nil, Nat.zero_add] at hgrow
        exact Round.goes_on hf₂ (Keeps.of_live rfl rfl rfl) (by omega)
      · -- the end of the body closes the connection; the rounds go on unless a record was cut
        simp only [StateT.run_bind, StateT.run_set, pure_bind]
        split
        · exact .inr fun h => by cases h
        · refine Round.goes_on hf₂ ((Keeps.of_live rfl rfl rfl).trans (Keeps.endOfReply _)) ?_
          rw [roundWork_endOfReply, hr, List.length_nil]
          omega
      · exact .inr fun h => by cases h
      · split
        · -- a timeout of a continuous feed closes the connection, to reconnect
          simp only [StateT.run_bind, StateT.run_set, pure_bind]
          have hkeep : Keeps ⟨spec, lastSeq, framer, some pieces, false, false⟩
              ⟨spec, lastSeq, ⟨[], framer.records⟩, some rest, false, false⟩ := Keeps.of_live rfl rfl rfl
          refine Round.goes_on hf₂ (hkeep.trans (Keeps.endOfReply _)) ?_
          rw [roundWork_endOfReply]
          dsimp only
          rw [hr, List.length_nil]
          omega
        · exact .inr fun h => by cases h

theorem nextChangeWithin_read_cancelled (hf : s.feed? name = some f) (hr : f.framer.records = [])
    (hc : f.cancelled = false) (hfin : f.finished = false) {pieces rest : List Piece}
    {cs : List (String × Bool)} {res : ReadResult} (hread : f.reading = some pieces)
    (hone : readOnce pieces = (cs, res, rest)) {s₂ : Session} {f₂ : ChangeFeed}
    (hce : (cancelEach cs).run (s.setFeed name { f with reading := some rest }) = (.ok (), s₂))
    (hres : ∀ e, res ≠ .crash e) (hf₂ : s₂.feed? name = some f₂) (hc₂ : f₂.cancelled = true) :
    (nextChangeWithin name depth (fuel + 1)).run s = (nextChangeWithin name depth fuel).run s₂ := by
  obtain ⟨spec, lastSeq, framer, reading, cancelled, finished⟩ := f
  simp only at hc hfin hr hread
  subst hc hfin hread
  have hce' : (cancelEach cs).run (s.setFeed name ⟨spec, lastSeq, framer, some rest, false, false⟩) =
      pure (.ok (), s₂) := hce
  rw [nextChangeWithin]
  -- with the cancellations made, the arm taken is the one that looks at the feed again: the
  -- side condition that rules out a crash is closed by `hres` from the context
  simp only [StateT.run_bind, StateT.run_get, hf, hr, pure_bind, Bool.or_false,
    Bool.false_eq_true, if_false, hone, StateT.run_set, hce']
  simp only [hf₂, hc₂, if_true]

/-- Every round of a call serves a record, stops, opens the connection or reads. -/
theorem nextChangeWithin_round (hf : s.feed? name = some f) :
    Round name depth fuel s f ((nextChangeWithin name depth (fuel + 1)).run s) := by
  cases hr : f.framer.records with
  | cons line rest => exact serve_round hf hr
  | nil =>
    cases hc : f.cancelled with
    | true => exact stop_round hf hr (.inl hc)
    | false =>
      cases hfin : f.finished with
      | true => exact stop_round hf hr (.inr hfin)
      | false =>
        cases hread : f.reading with
        | none => exact open_round hf hr hc hfin hread
        | some pieces => exact read_round hf hr hc hfin hread

end Rounds

theorem roundWork_feed_le {name : String} {s : Session} {f : ChangeFeed} (hf : s.feed? name = some f) :
    f.roundWork ≤ s.roundWork := by
  have := feedsWork_filter_named s.feeds hf
  unfold roundWork
  omega

theorem nextChangeWithin_drains (name : String) (depth : Nat) : ∀ (fuel : Nat) (s : Session)
    (f : ChangeFeed), s.feed? name = some f → f.cancelled = true →
    f.framer.records.length < fuel →
    ∃ f', (nextChangeWithin name depth fuel).run s =
        (answerOf (drainOutcomes f.spec (depth + 1) f.framer.records), s.setFeed name f') ∧
      f'.cancelled = true ∧ f'.spec = f.spec ∧ f'.framer.pendingBytes = f.framer.pendingBytes ∧
      (f'.reading = f.reading ∨ f'.reading = none) ∧
      drainOutcomes f'.spec (depth + 1) f'.framer.records =
        (drainOutcomes f.spec (depth + 1) f.framer.records).tail ∧
      (drainOutcomes f.spec (depth + 1) f.framer.records = [] →
        f'.framer.records = [] ∧ f'.reading = none)
  | 0, _, _, _, _, hlen => absurd hlen (Nat.not_lt_zero _)
  | fuel + 1, s, f, hf, hc, hlen => by
    cases hr : f.framer.records with
    | nil =>
      -- nothing queued: the feed stops
      rw [nextChangeWithin_stop name depth fuel s f hf hr (.inl hc)]
      exact ⟨{ f with reading := none }, by simp [drainOutcomes, answerOf], hc, rfl, rfl, .inr rfl,
        by simp [hr, drainOutcomes], fun _ => ⟨hr, rfl⟩⟩
    | cons line rest =>
      rw [nextChangeWithin_serve name depth fuel s f line rest hf hr]
      obtain ⟨hspec, hcancel, hreading, hpend, hlen₁, -⟩ := serveRecord_fst f (depth + 1) line rest
      have hdrain := serveRecord_drain f (depth + 1) line rest
      rcases hsv : f.serveRecord (depth + 1) line rest with ⟨f₁, r⟩
      rw [hsv] at hspec hcancel hreading hpend hlen₁ hdrain
      dsimp only at hspec hcancel hreading hpend hlen₁ hdrain
      rw [hr] at hlen
      rcases hdrain with ⟨rfl, hsame⟩ | ⟨hans, hne, htail⟩
      · -- the record gives nothing: the rest of the call serves what is left
        obtain ⟨f', hrun, hc', hspec', hpend', hread', htail', hend'⟩ :=
          nextChangeWithin_drains name depth fuel (s.setFeed name f₁) f₁ (feed?_setFeed ..)
            (hcancel.trans hc) (by simp only [List.length_cons] at hlen; omega)
        rw [hspec, hsame] at hrun htail' hend'
        rw [setFeed_setFeed] at hrun
        refine ⟨f', hrun, hc', hspec'.trans hspec, hpend'.trans hpend, ?_, htail', hend'⟩
        rcases hread' with h | h
        · exact .inl (h.trans hreading)
        · exact .inr h
      · -- the record gives the first outcome left
        refine ⟨f₁, ?_, hcancel.trans hc, hspec, hpend, .inl hreading, by rw [hspec, htail],
          fun hnil => absurd (by rw [hans, hnil]; rfl) hne⟩
        rcases r with e | _ | ev
        · rw [← hans]
        · exact absurd rfl hne
        · rw [← hans]

theorem nextChangeWithin_ends (name : String) (depth : Nat) : ∀ (fuel : Nat) (s : Session)
    (f : ChangeFeed), s.feed? name = some f → s.roundWork < fuel →
    ((nextChangeWithin name depth fuel).run s).1 = .ok none →
    ∃ f₁, ((nextChangeWithin name depth fuel).run s).2.feed? name = some f₁ ∧ Keeps f f₁ ∧
      Silent f₁ ∧ f₁.reading = none
  | 0, _, _, _, hw, _ => absurd hw (Nat.not_lt_zero _)
  | fuel + 1, s, f, hf, hw, hnone => by
    have hround : Round name depth fuel s f ((nextChangeWithin name depth (fuel + 1)).run s) :=
      nextChangeWithin_round hf
    rcases hround with ⟨s₁, f₁, hp, hf₁, hkeep, hlt⟩ | hstop
    · rw [hp] at hnone ⊢
      obtain ⟨f₂, hf₂, hkeep₂, hsilent, hclosed⟩ :=
        nextChangeWithin_ends name depth fuel s₁ f₁ hf₁ (by omega) hnone
      exact ⟨f₂, hf₂, hkeep.trans hkeep₂, hsilent, hclosed⟩
    · exact hstop hnone

theorem nextChange_run (name : String) (depth : Nat) (s : Session) :
    (nextChange name depth).run s = (nextChangeWithin name depth (s.workBound + 1)).run s := rfl

theorem nextChange_ends {name : String} {depth : Nat} {s : Session} {f : ChangeFeed}
    (hf : s.feed? name = some f) (h : ((nextChange name depth).run s).1 = .ok none) :
    ∃ f₁, ((nextChange name depth).run s).2.feed? name = some f₁ ∧ Keeps f f₁ ∧ Silent f₁ ∧
      f₁.reading = none := by
  rw [nextChange_run] at h ⊢
  exact nextChangeWithin_ends name depth _ s f hf (roundWork_lt_workBound s) h

theorem nextChange_read_cancelled {name : String} {depth : Nat} {s : Session} {f : ChangeFeed}
    (hf : s.feed? name = some f) (hr : f.framer.records = []) (hc : f.cancelled = false)
    (hfin : f.finished = false) {pieces rest : List Piece} {cs : List (String × Bool)}
    {res : ReadResult} (hread : f.reading = some pieces) (hone : readOnce pieces = (cs, res, rest))
    {d : Bool} (hmem : (name, d) ∈ cs) (hall : ∀ p ∈ cs, (s.feed? p.1).isSome)
    (hres : ∀ e, res ≠ .crash e) :
    ((nextChange name depth).run s).1 = .ok none ∧
      ∃ f₁, ((nextChange name depth).run s).2.feed? name = some f₁ ∧ f₁.cancelled = true ∧
        f₁.framer = {} ∧ f₁.reading = none ∧
        ((nextChange name depth).run s).2.sent = s.sent ∧
        ((nextChange name depth).run s).2.script = s.script := by
  rcases hce : (cancelEach cs).run (s.setFeed name { f with reading := some rest }) with ⟨x, s₂⟩
  have hx : x = .ok () := by
    have := cancelEach_ok cs (s.setFeed name { f with reading := some rest })
      fun p hp => isSome_feed?_setFeed s name _ (hall p hp)
    rw [hce] at this
    exact this
  subst hx
  obtain ⟨-, f₂, hf₂, hform, hcan⟩ := cancelEach_feed cs hce (feed?_setFeed ..)
  have hc₂ : f₂.cancelled = true := hcan rfl ⟨d, hmem⟩
  -- the feed was not cancelled before, so the cancellations stored it cancelled, with an
  -- empty framer
  obtain ⟨d', rfl⟩ : ∃ d', f₂ = ({ f with reading := some rest } : ChangeFeed).cancel d' := by
    rcases hform with rfl | h
    · rw [hc] at hc₂
      cases hc₂
    · exact h
  have hempty : (({ f with reading := some rest } : ChangeFeed).cancel d').framer = {} := by
    cases d' <;> simp [ChangeFeed.cancel, hr]
  obtain ⟨hsent, hscript⟩ := cancelEach_keeps cs (s.setFeed name { f with reading := some rest })
  rw [hce] at hsent hscript
  obtain ⟨w, hw⟩ : ∃ w, s.workBound = w + 1 := ⟨s.workBound - 1, by rw [workBound_eq]; omega⟩
  rw [nextChange_run, hw, nextChangeWithin_read_cancelled hf hr hc hfin hread hone hce hres hf₂ hc₂,
    nextChangeWithin_stop name depth w s₂ _ hf₂ (by rw [hempty]) (.inl hc₂)]
  exact ⟨rfl, _, feed?_setFeed .., hc₂, hempty, rfl, hsent, hscript⟩

theorem cancelFeed_run {name : String} {s : Session} {f : ChangeFeed} (hf : s.feed? name = some f)
    (drain : Bool) : (cancelFeed name drain).run s = ((), s.setFeed name (f.cancel drain)) := by
  simp only [cancelFeed, StateT.run_modify, hf]
  rfl

theorem closeFeed_run {name : String} {s : Session} {f : ChangeFeed} (hf : s.feed? name = some f) :
    (closeFeed name).run s = ((), s.setFeed name { f.cancel false with reading := none }) := by
  simp only [closeFeed, StateT.run_modify, hf]
  rfl

end Session

/-- A consumer's call on a change feed: next, cancel (draining or not), or close. -/
inductive FeedCall where
  | next
  | cancel (drain : Bool)
  | close

namespace FeedCall

open Session ChangeFeed

/-- Make a call on the named feed: the answer to a request for the next change, else nothing. -/
def run (name : String) (depth : Nat) :
    FeedCall → StateM Session (Option (Except Error (Option ChangeEvent)))
  | .next => some <$> nextChange name depth
  | .cancel drain => (fun _ => none) <$> cancelFeed name drain
  | .close => (fun _ => none) <$> closeFeed name

/-- Make calls in a row, with their answers in order. -/
def runAll (name : String) (depth : Nat) :
    List FeedCall → StateM Session (List (Option (Except Error (Option ChangeEvent))))
  | [] => pure []
  | c :: cs => do
    let a ← c.run name depth
    let as ← runAll name depth cs
    pure (a :: as)

/-- What a call answers once its feed has ended: the end for a request, nothing otherwise. -/
def ended : FeedCall → Option (Except Error (Option ChangeEvent))
  | .next => some (.ok none)
  | _ => none

theorem runAll_cons (name : String) (depth : Nat) (c : FeedCall) (cs : List FeedCall) (s : Session) :
    (runAll name depth (c :: cs)).run s =
      (((c.run name depth).run s).1 :: ((runAll name depth cs).run ((c.run name depth).run s).2).1,
        ((runAll name depth cs).run ((c.run name depth).run s).2).2) := rfl

theorem run_next (name : String) (depth : Nat) (s : Session) :
    (FeedCall.next.run name depth).run s =
      (some ((nextChange name depth).run s).1, ((nextChange name depth).run s).2) := by
  show (some <$> nextChange name depth).run s = _
  rw [StateT.run_map]
  rfl

theorem run_cancel {name : String} {depth : Nat} {s : Session} {f : ChangeFeed}
    (hf : s.feed? name = some f) (drain : Bool) :
    ((FeedCall.cancel drain).run name depth).run s = (none, s.setFeed name (f.cancel drain)) := by
  show ((fun _ => none) <$> cancelFeed name drain).run s = _
  rw [StateT.run_map, cancelFeed_run hf]
  rfl

theorem run_close {name : String} {depth : Nat} {s : Session} {f : ChangeFeed}
    (hf : s.feed? name = some f) :
    (FeedCall.close.run name depth).run s =
      (none, s.setFeed name { f.cancel false with reading := none }) := by
  show ((fun _ => none) <$> closeFeed name).run s = _
  rw [StateT.run_map, closeFeed_run hf]
  rfl

theorem kept_or_reset {α : Type} {a b c z : α} (h₁ : b = a ∨ b = z) (h₂ : c = b ∨ c = z) :
    c = a ∨ c = z := by
  rcases h₂ with rfl | h
  · exact h₁
  · exact .inr h

section Silent

variable {name : String} {depth : Nat} {s : Session} {f : ChangeFeed}

theorem run_silent (c : FeedCall) (hf : s.feed? name = some f) (hs : Silent f) :
    ∃ f', (c.run name depth).run s = (c.ended, s.setFeed name f') ∧ Silent f' ∧
      (f'.reading = f.reading ∨ f'.reading = none) ∧ (f'.framer = f.framer ∨ f'.framer = {}) ∧
      (c = .next → f'.reading = none) := by
  cases c with
  | next =>
    have hstop := nextChangeWithin_stop name depth s.workBound s f hf hs.records hs.stopped
    refine ⟨{ f with reading := none }, ?_, ⟨hs.records, hs.stopped⟩, .inr rfl, .inl rfl, fun _ => rfl⟩
    rw [run_next, nextChange_run, hstop]
    rfl
  | cancel d =>
    refine ⟨f.cancel d, run_cancel hf d, ⟨?_, .inl rfl⟩, .inl rfl, .inr ?_, fun h => by cases h⟩
    · cases d <;> simp [ChangeFeed.cancel, hs.records]
    · cases d <;> simp [ChangeFeed.cancel, hs.records]
  | close =>
    exact ⟨{ f.cancel false with reading := none }, run_close hf, ⟨rfl, .inl rfl⟩, .inr rfl, .inr rfl,
      fun h => by cases h⟩

theorem runAll_silent : ∀ (cs : List FeedCall) (s : Session) (f : ChangeFeed),
    s.feed? name = some f → Silent f →
    ∃ f', ((runAll name depth cs).run s).1 = cs.map ended ∧
      ((runAll name depth cs).run s).2.sent = s.sent ∧
      ((runAll name depth cs).run s).2.script = s.script ∧
      ((runAll name depth cs).run s).2.feed? name = some f' ∧ Silent f' ∧
      (f'.reading = f.reading ∨ f'.reading = none) ∧ (f'.framer = f.framer ∨ f'.framer = {}) ∧
      (FeedCall.next ∈ cs → f'.reading = none)
  | [], s, f, hf, hs => ⟨f, rfl, rfl, rfl, hf, hs, .inl rfl, .inl rfl, fun h => by cases h⟩
  | c :: cs, s, f, hf, hs => by
    obtain ⟨f₁, hrun, hs₁, hread₁, hfr₁, hnext₁⟩ := run_silent c hf hs
    obtain ⟨f', hout, hsent, hscript, hf', hs', hread', hfr', hnext'⟩ :=
      runAll_silent cs (s.setFeed name f₁) f₁ (feed?_setFeed ..) hs₁
    rw [runAll_cons, hrun]
    refine ⟨f', by rw [hout]; rfl, hsent, hscript, hf', hs', kept_or_reset hread₁ hread',
      kept_or_reset hfr₁ hfr', fun hmem => ?_⟩
    · rcases List.mem_cons.mp hmem with h | h
      · -- the first call was a request, and nothing later opens a connection
        rcases hread' with h' | h'
        · rw [h', hnext₁ h.symm]
        · exact h'
      · exact hnext' h

theorem runAll_next_drains (base : Session) : ∀ (k : Nat) (g : ChangeFeed), g.cancelled = true →
    ∃ g', (runAll name depth (List.replicate k .next)).run (base.setFeed name g) =
        ((List.range k).map fun i =>
          some (answerOf ((drainOutcomes g.spec (depth + 1) g.framer.records).drop i)),
          base.setFeed name g') ∧
      g'.cancelled = true ∧ g'.framer.pendingBytes = g.framer.pendingBytes ∧
      (g'.reading = g.reading ∨ g'.reading = none) ∧
      ((drainOutcomes g.spec (depth + 1) g.framer.records).length < k →
        g'.framer.records = [] ∧ g'.reading = none)
  | 0, g, hc => ⟨g, rfl, hc, rfl, .inl rfl, fun h => absurd h (Nat.not_lt_zero _)⟩
  | k + 1, g, hc => by
    have hg := feed?_setFeed base name g
    have hfuel : g.framer.records.length < (base.setFeed name g).workBound + 1 := by
      have := roundWork_feed_le hg
      have := roundWork_lt_workBound (base.setFeed name g)
      unfold ChangeFeed.roundWork at *
      omega
    obtain ⟨g₁, hrun₁, hc₁, hspec₁, hpend₁, hread₁, htail₁, hend₁⟩ :=
      nextChangeWithin_drains name depth _ _ g hg hc hfuel
    obtain ⟨g', hrun', hc', hpend', hread', hlong'⟩ := runAll_next_drains base k g₁ hc₁
    rw [htail₁] at hrun' hlong'
    refine ⟨g', ?_, hc', hpend'.trans hpend₁, kept_or_reset hread₁ hread', fun hlt => ?_⟩
    · rw [List.replicate_succ, runAll_cons, run_next, nextChange_run, hrun₁, setFeed_setFeed, hrun']
      simp only [List.range_succ_eq_map, List.map_cons, List.map_map, List.drop_zero,
        Function.comp_def, List.drop_tail]
    · cases hD : drainOutcomes g.spec (depth + 1) g.framer.records with
      | nil =>
        -- the first request ended the feed; later ones find it ended
        cases k with
        | zero =>
          have hsame : (base.setFeed name g₁).feed? name = (base.setFeed name g').feed? name :=
            congrArg (fun p => p.2.feed? name) hrun'
          rw [feed?_setFeed, feed?_setFeed, Option.some_inj] at hsame
          rw [← hsame]
          exact hend₁ hD
        | succ k => exact hlong' (by simp [hD])
      | cons o os =>
        exact hlong' (by simp only [hD, List.length_cons, List.tail_cons] at hlt ⊢; omega)

end Silent

section Ended

variable {name : String} {depth : Nat} {s : Session} {f : ChangeFeed}

theorem runAll_after_stop (hf : s.feed? name = some f) {c : FeedCall}
    (hc : c = .cancel false ∨ c = .close) (cs : List FeedCall) :
    ∃ f', ((runAll name depth (c :: cs)).run s).1 = (c :: cs).map ended ∧
      ((runAll name depth (c :: cs)).run s).2.sent = s.sent ∧
      ((runAll name depth (c :: cs)).run s).2.script = s.script ∧
      ((runAll name depth (c :: cs)).run s).2.feed? name = some f' ∧ f'.framer = {} ∧
      (f'.reading = f.reading ∨ f'.reading = none) := by
  -- the stop leaves a silent feed with an empty framer
  obtain ⟨g, hrun, hsilent, hframer, hread⟩ : ∃ g, (c.run name depth).run s = (none, s.setFeed name g) ∧
      Silent g ∧ g.framer = {} ∧ (g.reading = f.reading ∨ g.reading = none) := by
    rcases hc with rfl | rfl
    · exact ⟨_, run_cancel hf false, ⟨rfl, .inl rfl⟩, rfl, .inl rfl⟩
    · exact ⟨_, run_close hf, ⟨rfl, .inl rfl⟩, rfl, .inr rfl⟩
  obtain ⟨f', hout, hsent, hscript, hf', -, hread', hfr', -⟩ :=
    runAll_silent cs (s.setFeed name g) g (feed?_setFeed ..) hsilent
  rw [runAll_cons, hrun]
  refine ⟨f', ?_, hsent, hscript, hf', ?_, kept_or_reset hread hread'⟩
  · rw [hout]
    rcases hc with rfl | rfl <;> rfl
  · rcases hfr' with h | h
    · rw [h, hframer]
    · exact h

theorem runAll_drain_after_cancel (hf : s.feed? name = some f) (k : Nat) :
    ∃ f', (runAll name depth (.cancel true :: List.replicate k .next)).run s =
        (none :: (List.range k).map (fun i =>
          some (answerOf ((drainOutcomes f.spec (depth + 1) f.framer.records).drop i))),
          s.setFeed name f') ∧
      f'.framer.pendingBytes = [] ∧ (f'.reading = f.reading ∨ f'.reading = none) := by
  obtain ⟨f', hrun, -, hpend, hread, -⟩ := runAll_next_drains s k (f.cancel true) rfl
  refine ⟨f', ?_, hpend, hread⟩
  rw [runAll_cons, run_cancel hf, hrun]
  rfl

theorem runAll_after_end (hf : s.feed? name = some f)
    (hend : ((nextChange name depth).run s).1 = .ok none) (cs : List FeedCall) :
    ∃ f', ((runAll name depth cs).run ((nextChange name depth).run s).2).1 = cs.map ended ∧
      ((runAll name depth cs).run ((nextChange name depth).run s).2).2.sent =
        ((nextChange name depth).run s).2.sent ∧
      ((runAll name depth cs).run ((nextChange name depth).run s).2).2.script =
        ((nextChange name depth).run s).2.script ∧
      ((runAll name depth cs).run ((nextChange name depth).run s).2).2.feed? name = some f' ∧
      f'.reading = none := by
  obtain ⟨f₁, hf₁, -, hsilent, hclosed⟩ := nextChange_ends hf hend
  obtain ⟨f', hout, hsent, hscript, hf', -, hread', -, -⟩ := runAll_silent cs _ f₁ hf₁ hsilent
  refine ⟨f', hout, hsent, hscript, hf', ?_⟩
  rcases hread' with h | h
  · rw [h, hclosed]
  · exact h

theorem continuous_end_cancelled (hf : s.feed? name = some f) (hmode : f.spec.mode = .continuous)
    (hfin : f.finished = false) (hend : ((nextChange name depth).run s).1 = .ok none) :
    ∃ f₁, ((nextChange name depth).run s).2.feed? name = some f₁ ∧ f₁.cancelled = true := by
  obtain ⟨f₁, hf₁, hkeep, hsilent, -⟩ := nextChange_ends hf hend
  refine ⟨f₁, hf₁, ?_⟩
  rcases hsilent.stopped with h | h
  · exact h
  · -- only a bounded feed finishes
    rcases hkeep.finished h with h' | h'
    · rw [hfin] at h'
      cases h'
    · rw [hmode] at h'
      cases h'

end Ended

/-- After a cancel or a close, calls answer the end once the queued changes are out. -/
theorem cancelled_feed_stays_ended (name : String) (depth : Nat) (s : Session) (f : ChangeFeed)
    (hf : s.feed? name = some f) :
    (∀ (c : FeedCall) (cs : List FeedCall), (c = .cancel false ∨ c = .close) →
      ∃ f', ((runAll name depth (c :: cs)).run s).1 = (c :: cs).map ended ∧
        ((runAll name depth (c :: cs)).run s).2.sent = s.sent ∧
        ((runAll name depth (c :: cs)).run s).2.script = s.script ∧
        ((runAll name depth (c :: cs)).run s).2.feed? name = some f' ∧ f'.framer = {} ∧
        (f'.reading = f.reading ∨ f'.reading = none)) ∧
    (∀ k : Nat, ∃ f', (runAll name depth (.cancel true :: List.replicate k .next)).run s =
        (none :: (List.range k).map (fun i =>
          some (answerOf ((drainOutcomes f.spec (depth + 1) f.framer.records).drop i))),
          s.setFeed name f') ∧
      f'.framer.pendingBytes = [] ∧ (f'.reading = f.reading ∨ f'.reading = none)) ∧
    (∀ (pieces rest : List Piece) (cs : List (String × Bool)) (res : ReadResult) (d : Bool),
      f.framer.records = [] → f.cancelled = false → f.finished = false →
      f.reading = some pieces → readOnce pieces = (cs, res, rest) → (name, d) ∈ cs →
      (∀ p ∈ cs, (s.feed? p.1).isSome) → (∀ e, res ≠ .crash e) →
      ((nextChange name depth).run s).1 = .ok none ∧
        ∃ f₁, ((nextChange name depth).run s).2.feed? name = some f₁ ∧ f₁.cancelled = true ∧
          f₁.framer = {} ∧ f₁.reading = none ∧
          ((nextChange name depth).run s).2.sent = s.sent ∧
          ((nextChange name depth).run s).2.script = s.script) ∧
    (((nextChange name depth).run s).1 = .ok none → ∀ cs : List FeedCall,
      ∃ f', ((runAll name depth cs).run ((nextChange name depth).run s).2).1 = cs.map ended ∧
        ((runAll name depth cs).run ((nextChange name depth).run s).2).2.sent =
          ((nextChange name depth).run s).2.sent ∧
        ((runAll name depth cs).run ((nextChange name depth).run s).2).2.script =
          ((nextChange name depth).run s).2.script ∧
        ((runAll name depth cs).run ((nextChange name depth).run s).2).2.feed? name = some f' ∧
        f'.reading = none) ∧
    (f.spec.mode = .continuous → f.finished = false → ((nextChange name depth).run s).1 = .ok none →
      ∃ f₁, ((nextChange name depth).run s).2.feed? name = some f₁ ∧ f₁.cancelled = true) :=
  ⟨fun _ cs hc => runAll_after_stop hf hc cs,
    fun k => runAll_drain_after_cancel hf k,
    fun _ _ _ _ _ hr hc hfin hread hone hmem hall hres =>
      nextChange_read_cancelled hf hr hc hfin hread hone hmem hall hres,
    fun hend cs => runAll_after_end hf hend cs,
    fun hmode hfin hend => continuous_end_cancelled hf hmode hfin hend⟩

/-- Closing a continuous feed mid-read: the next two requests answer the end, sending nothing. -/
theorem closed_feed_answers_end :
    let f : ChangeFeed := { spec := ⟨"users", .envelope, .continuous, .bool false, .raise, []⟩,
                            lastSeq := .null,
                            framer := { pendingBytes := [0x7B], records := [[0x7B, 0x7D]] },
                            reading := some [.bytes [0x0A]] }
    let s : Session := { base := { scheme := "http", host := "couch.test", path := "/" },
                         authorization := none, stem := .str "", script := [],
                         feeds := [("changes", f)] }
    s.feed? "changes" = some f ∧
      ((runAll "changes" 1 [.close, .next, .next]).run s).1 = [none, some (.ok none), some (.ok none)] ∧
      ((runAll "changes" 1 [.close, .next, .next]).run s).2.sent = [] := by
  intro f s
  obtain ⟨_, hout, hsent, -⟩ :=
    (cancelled_feed_stays_ended "changes" 1 s f rfl).1 .close [.next, .next] (.inr rfl)
  exact ⟨rfl, hout, hsent⟩

end FeedCall

end DocClient
