import DocClient.Proofs.Changes.Cancel
import DocClient.Proofs.Changes.Continuous
import DocClient.Proofs.Http.Failures
/-!
# Skipping malformed records

Run side by side round by round (`twinRound`), a feed that skips malformed records answers as
its twin that fails on them, less those failures (`skipping_drops_malformed_failures`).
-/
namespace DocClient

/-- A failure of a class raised for a malformed record: a type or a stream failure. -/
def Error.likeMalformed : Error → Bool
  | .type _ => true
  | .client c => c.kind == .stream
  | _ => false

theorem likeMalformed_of_recordFault {e : Error} (h : recordFault e = none) :
    e.likeMalformed = false := by
  -- the two classes a malformed record raises are both faults of the record
  cases e with
  | type m => cases h
  | client c => cases h
  | _ => rfl

theorem readRecord_error_unlike {d : Nat} {a : Adapter} {t : String} {e : Error}
    (h : readRecord d a t = .error e) : e.likeMalformed = false := by
  unfold readRecord at h
  dsimp only at h
  repeat' split at h
  -- every other branch answers a meaning
  all_goals cases h
  · -- a record nested too deep
    rfl
  · -- a change that cannot be read for no fault of the record
    exact likeMalformed_of_recordFault ‹_›
  · -- a document that cannot be decoded for no fault of the record
    exact likeMalformed_of_recordFault ‹_›

/-! ### The policy of a feed -/

namespace ChangeFeed

/-- The feed with another policy for malformed records. -/
def withPolicy (f : ChangeFeed) (p : MalformedPolicy) : ChangeFeed :=
  { f with spec := { f.spec with policy := p } }

@[simp] theorem withPolicy_framer (f : ChangeFeed) (p : MalformedPolicy) :
    (f.withPolicy p).framer = f.framer := rfl

@[simp] theorem withPolicy_reading (f : ChangeFeed) (p : MalformedPolicy) :
    (f.withPolicy p).reading = f.reading := rfl

@[simp] theorem withPolicy_cancelled (f : ChangeFeed) (p : MalformedPolicy) :
    (f.withPolicy p).cancelled = f.cancelled := rfl

@[simp] theorem withPolicy_finished (f : ChangeFeed) (p : MalformedPolicy) :
    (f.withPolicy p).finished = f.finished := rfl

@[simp] theorem withPolicy_mode (f : ChangeFeed) (p : MalformedPolicy) :
    (f.withPolicy p).spec.mode = f.spec.mode := rfl

@[simp] theorem withPolicy_adapter (f : ChangeFeed) (p : MalformedPolicy) :
    (f.withPolicy p).spec.adapter = f.spec.adapter := rfl

@[simp] theorem withPolicy_policy (f : ChangeFeed) (p : MalformedPolicy) :
    (f.withPolicy p).spec.policy = p := rfl

@[simp] theorem roundWork_withPolicy (f : ChangeFeed) (p : MalformedPolicy) :
    (f.withPolicy p).roundWork = f.roundWork := rfl

theorem endOfReply_withPolicy (f : ChangeFeed) (p : MalformedPolicy) :
    (f.withPolicy p).endOfReply = (f.endOfReply.1.withPolicy p, f.endOfReply.2) := by
  refine Prod.ext ?_ ?_
  · rw [endOfReply_fst, endOfReply_fst]
    rfl
  · by_cases hc : (Blank.trimBytesBy Blank.isAsciiBlank f.framer.tail).isEmpty = true <;>
      simp [endOfReply, hc]

theorem serveRecord_withPolicy_fst (f : ChangeFeed) (p : MalformedPolicy) (d : Nat)
    (line : List UInt8) (rest : List (List UInt8)) :
    ((f.withPolicy p).serveRecord d line rest).1 = (f.serveRecord d line rest).1.withPolicy p := by
  unfold serveRecord
  dsimp only
  simp only [withPolicy_adapter, withPolicy_mode, withPolicy_policy]
  cases readRecord d f.spec.adapter (recordText line) with
  | error e => rfl
  | ok m =>
    cases m with
    | batchEnd last => by_cases hb : f.spec.mode = .bounded <;> simp only [hb, if_true, if_false] <;> rfl
    | change ev => rfl
    | malformed reason =>
      cases p <;> cases f.spec.policy <;> cases reason <;> simp <;> rfl

theorem serveRecord_skip (f : ChangeFeed) (d : Nat) (line : List UInt8) (rest : List (List UInt8)) :
    ((f.withPolicy .skip).serveRecord d line rest).1 = (f.serveRecord d line rest).1.withPolicy .skip ∧
      (((f.withPolicy .skip).serveRecord d line rest).2 = (f.serveRecord d line rest).2 ∨
        ∃ reason, (f.serveRecord d line rest).2 = .error (malformedFailure reason (recordText line)) ∧
          ((f.withPolicy .skip).serveRecord d line rest).2 = .ok none) := by
  refine ⟨serveRecord_withPolicy_fst f .skip d line rest, ?_⟩
  unfold serveRecord
  dsimp only
  simp only [withPolicy_adapter, withPolicy_mode, withPolicy_policy]
  cases hm : readRecord d f.spec.adapter (recordText line) with
  | error e => exact .inl rfl
  | ok m =>
    cases m with
    | batchEnd last => exact .inl (by by_cases hb : f.spec.mode = .bounded <;> simp [hb])
    | change ev => exact .inl rfl
    | malformed reason =>
      cases hp : f.spec.policy with
      | skip => exact .inl (by simp)
      | raise =>
        refine .inr ⟨reason, ?_, by simp⟩
        cases reason <;> simp [malformedFailure]

theorem serveRecord_skip_error {f : ChangeFeed} {d : Nat} {line : List UInt8}
    {rest : List (List UInt8)} {e : Error}
    (h : ((f.withPolicy .skip).serveRecord d line rest).2 = .error e) : e.likeMalformed = false := by
  unfold serveRecord at h
  dsimp only at h
  simp only [withPolicy_adapter, withPolicy_mode, withPolicy_policy] at h
  revert h
  cases hm : readRecord d f.spec.adapter (recordText line) with
  | error e' =>
    intro h
    cases h
    exact readRecord_error_unlike hm
  | ok m =>
    cases m with
    | batchEnd last => by_cases hb : f.spec.mode = .bounded <;> simp [hb]
    | change ev => simp
    | malformed reason => simp

/-! ### Answers that are failures for malformed records -/

/-- An answer that is the failure for a malformed record. -/
def MalformedAnswer (o : Except Error (Option ChangeEvent)) : Prop :=
  ∃ reason text, o = .error (malformedFailure reason text)

theorem likeMalformed_malformedFailure (reason : Except String Text) (text : String) :
    (malformedFailure reason text).likeMalformed = true := by
  cases reason <;> rfl

theorem not_malformedAnswer_ok (x : Option ChangeEvent) : ¬ MalformedAnswer (.ok x) := by
  rintro ⟨_, _, h⟩
  cases h

theorem not_malformedAnswer_of_unlike {e : Error} (h : e.likeMalformed = false) :
    ¬ MalformedAnswer (.error e) := by
  rintro ⟨reason, text, he⟩
  rw [Except.error.inj he, likeMalformed_malformedFailure] at h
  cases h

theorem not_malformedAnswer_cutOff (line : String) :
    ¬ MalformedAnswer (.error (streamError "Changes feed ended in the middle of a record" line)) := by
  rintro ⟨reason, text, h⟩
  cases reason with
  | error m => cases h
  | ok r =>
    simp only [malformedFailure, streamError, Except.error.injEq, Error.client.injEq,
      ClientError.mk.injEq, Value.str.injEq] at h
    -- the two messages differ in their first letter
    have hhead := congrArg (fun t : Text => t.points.head?) h.2.1
    have hM : (Text.ofString "Malformed change record: " ++ r).points.head? = some (.char 'M') := rfl
    rw [hM] at hhead
    revert hhead
    decide

theorem not_malformedAnswer_endOfReply {f f' : ChangeFeed} {e : Error}
    (h : f.endOfReply = (f', some e)) : ¬ MalformedAnswer (.error e) := by
  unfold endOfReply at h
  dsimp only at h
  split at h
  · cases h
  · obtain ⟨-, he⟩ := Prod.mk.inj h
    cases he
    exact not_malformedAnswer_cutOff _

end ChangeFeed

/-! ### Replies that read plainly -/

/-- A piece that reads plainly: no cancel, and no crash that looks like a malformed record. -/
def Piece.plain : Piece → Bool
  | .cancel .. => false
  | .crash e => !e.likeMalformed
  | _ => true

/-- Whether a scripted move reads plainly. -/
def Scripted.plain : Scripted → Bool
  | .reply r => r.pieces.all Piece.plain
  | .crash e => !e.likeMalformed
  | .fault _ => true

namespace Piece

theorem readOnce_plain : ∀ {ps : List Piece}, ps.all plain →
    (readOnce ps).1 = [] ∧ (readOnce ps).2.2.all plain ∧
      ∀ e, (readOnce ps).2.1 = .crash e → e.likeMalformed = false
  | [], _ => ⟨rfl, rfl, fun _ h => by cases h⟩
  | .bytes [] :: ps, h => by
    simp only [List.all_cons, Bool.and_eq_true] at h
    simpa [readOnce] using readOnce_plain h.2
  | .bytes (b :: bs) :: ps, h => by
    simp only [List.all_cons, Bool.and_eq_true] at h
    exact ⟨rfl, h.2, fun _ h => by cases h⟩
  | .fault _ :: ps, h => by
    simp only [List.all_cons, Bool.and_eq_true] at h
    exact ⟨rfl, h.2, fun _ h => by cases h⟩
  | .crash e :: ps, h => by
    simp only [List.all_cons, Bool.and_eq_true] at h
    refine ⟨rfl, h.2, fun _ he => ?_⟩
    cases he
    simpa [plain] using h.1
  | .cancel .. :: _, h => by simp [plain] at h

end Piece

theorem readWhole_plain : ∀ {ps : List Piece}, ps.all Piece.plain →
    ∃ x, (∀ e, x = .error e → e.likeMalformed = false) ∧
      ∀ s : Session, (readWhole ps).run.run s = (x, s)
  | [], _ => ⟨.ok (.ok []), (fun _ h => by cases h), fun _ => rfl⟩
  | .bytes bs :: ps, h => by
    simp only [List.all_cons, Bool.and_eq_true] at h
    obtain ⟨x, hx, hrun⟩ := readWhole_plain h.2
    refine ⟨x.map (·.map (bs ++ ·)), fun e he => ?_, fun s => ?_⟩
    · rcases x with e' | more
      · cases he
        exact hx _ rfl
      · cases he
    · rw [readWhole, ExceptT.run_bind, StateT.run_bind, hrun]
      rcases x with e | more | f <;> rfl
  | .fault f :: _, _ => ⟨.ok (.error f), (fun _ h => by cases h), fun _ => rfl⟩
  | .crash e :: _, h => by
    simp only [List.all_cons, Bool.and_eq_true] at h
    refine ⟨.error e, fun _ he => ?_, fun _ => rfl⟩
    cases he
    simpa [Piece.plain] using h.1
  | .cancel .. :: _, h => by simp [Piece.plain] at h

namespace Session

/-- The session with the named feed given another policy for malformed records. -/
def withPolicy (s : Session) (name : String) (p : MalformedPolicy) : Session :=
  { s with feeds := s.feeds.map fun e => if e.1 = name then (e.1, e.2.withPolicy p) else e }

/-- Reading the named feed goes plainly: its script and its reply left read plainly. -/
def plainReads (s : Session) (name : String) : Bool :=
  s.script.all Scripted.plain && (((s.feed? name).bind (·.reading)).getD []).all Piece.plain

section Policy

variable (s : Session) (name : String) (p : MalformedPolicy)

@[simp] theorem withPolicy_script : (s.withPolicy name p).script = s.script := rfl

@[simp] theorem withPolicy_sent : (s.withPolicy name p).sent = s.sent := rfl

@[simp] theorem withPolicy_base : (s.withPolicy name p).base = s.base := rfl

@[simp] theorem withPolicy_authorization :
    (s.withPolicy name p).authorization = s.authorization := rfl

@[simp] theorem feed?_withPolicy :
    (s.withPolicy name p).feed? name = (s.feed? name).map (·.withPolicy p) := by
  unfold feed? withPolicy
  dsimp only
  induction s.feeds with
  | nil => rfl
  | cons e l ih =>
    by_cases he : e.1 = name
    · simp only [List.map_cons, he, ↓reduceIte, List.find?_cons, decide_true, Option.map_some]
    · simp only [List.map_cons, he, ↓reduceIte, List.find?_cons, decide_false]
      exact ih

theorem setFeed_withPolicy (g : ChangeFeed) :
    (s.withPolicy name p).setFeed name (g.withPolicy p) = (s.setFeed name g).withPolicy name p := by
  have hfeeds : ∀ l : List (String × ChangeFeed),
      (l.map fun e => if e.1 = name then (e.1, e.2.withPolicy p) else e).filter (·.1 != name) =
        l.filter (·.1 != name) := by
    intro l
    induction l with
    | nil => rfl
    | cons e l ih =>
      by_cases he : e.1 = name
      · simp [he, ih]
      · simp [he, ih]
  have hkeep : ∀ l : List (String × ChangeFeed),
      (l.filter (·.1 != name)).map (fun e => if e.1 = name then (e.1, e.2.withPolicy p) else e) =
        l.filter (·.1 != name) := by
    intro l
    rw [List.map_congr_left (g := id) fun e he => by simp_all, List.map_id]
  simp only [setFeed, withPolicy, hfeeds, List.map_append, hkeep, List.map_cons, List.map_nil,
    if_true]

theorem roundWork_withPolicy : (s.withPolicy name p).roundWork = s.roundWork := by
  have hfeeds : ∀ l : List (String × ChangeFeed),
      feedsWork (l.map fun e => if e.1 = name then (e.1, e.2.withPolicy p) else e) = feedsWork l := by
    intro l
    induction l with
    | nil => rfl
    | cons e l ih =>
      by_cases he : e.1 = name
      · simp [he, ih, feedsWork]
      · simp [he, ih, feedsWork]
  simp only [roundWork, withPolicy, hfeeds]

theorem send_withPolicy {method path : String} {params : List (Value × Value)} {body : RequestBody}
    {y : Except Error Scripted} {s' : Session} (h : (send method path params body).run s = (y, s')) :
    (send method path params body).run (s.withPolicy name p) = (y, s'.withPolicy name p) := by
  unfold send withPolicy at *
  simp only [StateT.run_bind, StateT.run_get, pure_bind] at h ⊢
  rcases hq : requestQuery (s.base.join path).query params with u | ⟨qt, q⟩ <;> rw [hq] at h
  · cases h
    rfl
  · rcases hs : s.script with _ | ⟨r, rest⟩ <;> rw [hs] at h
    · cases h
      rfl
    · -- the verdict on the URL is carried over as it is, never worked out
      cases r <;> simp only [StateT.run_bind, StateT.run_set, pure_bind, StateT.run_pure] at h ⊢ <;>
        obtain ⟨rfl, rfl⟩ := Prod.mk.inj h <;> rfl

theorem openFeed_withPolicy {f : ChangeFeed} {depth : Nat} {x : Except Error Unit} {s' : Session}
    (hplain : s.script.all Scripted.plain) (h : (openFeed name f depth).run s = (x, s')) :
    (openFeed name (f.withPolicy p) depth).run (s.withPolicy name p) = (x, s'.withPolicy name p) := by
  rcases hs : (send "GET" (Percent.joinSegments [f.spec.db, "_changes"]) f.params .none).run s
    with ⟨y, s₂⟩
  have hs' := send_withPolicy s name p hs
  rw [openFeed, run_bind_run hs] at h
  rw [openFeed, show (f.withPolicy p).spec.db = f.spec.db from rfl,
    show (f.withPolicy p).params = f.params from rfl, run_bind_run hs']
  rcases y with e | r | fl | e
  · cases h
    rfl
  · -- the reply came from the script, so its body reads plainly
    obtain ⟨-, -, -, hscript, -⟩ := send_reply hs
    have hpieces : r.pieces.all Piece.plain := by
      rw [hscript, List.all_cons, Bool.and_eq_true] at hplain
      exact hplain.1
    obtain ⟨x₀, -, hx₀⟩ := readWhole_plain hpieces
    by_cases hst : 400 ≤ r.status
    · simp only [hst, if_true] at h ⊢
      rw [run_bind_run (hx₀ s₂)] at h
      rw [run_bind_run (hx₀ _)]
      rcases x₀ with e | fl | bs
      · cases h
        rfl
      · cases h
        rfl
      · dsimp only at h ⊢
        split at h <;> cases h <;> rfl
    · simp only [hst, if_false] at h ⊢
      simp only [StateT.run_bind, StateT.run_modify, pure_bind] at h ⊢
      obtain ⟨rfl, rfl⟩ := Prod.mk.inj h
      exact congrArg _ (setFeed_withPolicy s₂ name p { f with reading := some r.pieces })
  · cases h
    rfl
  · cases h
    rfl

end Policy

theorem plainReads_setFeed (s : Session) (name : String) (g : ChangeFeed) :
    (s.setFeed name g).plainReads name =
      (s.script.all Scripted.plain && (g.reading.getD []).all Piece.plain) := by
  rw [plainReads, feed?_setFeed]
  rfl

theorem plainReads_of_feed {s : Session} {name : String} {f : ChangeFeed} (hf : s.feed? name = some f) :
    s.plainReads name =
      (s.script.all Scripted.plain && (f.reading.getD []).all Piece.plain) := by
  rw [plainReads, hf]
  rfl

/-! ### Rounds not covered by the equations of a call -/

section Rounds

variable {name : String} {depth fuel : Nat} {s : Session} {f : ChangeFeed}

theorem nextChangeWithin_absent (hf : s.feed? name = none) :
    (nextChangeWithin name depth (fuel + 1)).run s = (.ok none, s) := by
  rw [nextChangeWithin]
  simp [hf]
  rfl

theorem nextChangeWithin_crash {pieces rest : List Piece} {e : Error}
    (hf : s.feed? name = some f) (hr : f.framer.records = [])
    (hc : f.cancelled = false) (hfin : f.finished = false) (hread : f.reading = some pieces)
    (hone : readOnce pieces = ([], .crash e, rest)) :
    (nextChangeWithin name depth (fuel + 1)).run s =
      (.error e, s.setFeed name { f with reading := some [] }) := by
  rw [nextChangeWithin]
  simp [hf, hr, hc, hfin, hread, hone, cancelEach]
  rfl

end Rounds

/-! ### What a round leaves to do -/

theorem serveRecord_roundWork_lt {f : ChangeFeed} {d : Nat} {line : List UInt8}
    {rest : List (List UInt8)} (hr : f.framer.records = line :: rest) :
    (f.serveRecord d line rest).1.roundWork < f.roundWork := by
  obtain ⟨-, -, hreading, -, hlen, -⟩ := ChangeFeed.serveRecord_fst f d line rest
  unfold ChangeFeed.roundWork
  rw [hreading, hr, List.length_cons]
  omega

theorem push_roundWork_lt {f : ChangeFeed} {pieces rest : List Piece} {bs : List UInt8}
    (hr : f.framer.records = []) (hread : f.reading = some pieces)
    (hone : readOnce pieces = ([], .data bs, rest)) :
    ({ f with reading := some rest, framer := f.framer.push bs } : ChangeFeed).roundWork <
      f.roundWork := by
  have hgrow := Framer.records_length_push f.framer bs
  have hb := (Piece.readOnce_work pieces hone).2 bs rfl
  rw [ChangeFeed.roundWork_reading rfl, ChangeFeed.roundWork_reading hread, hr]
  rw [hr, List.length_nil] at hgrow
  dsimp only
  omega

theorem endOfReply_roundWork_lt {f : ChangeFeed} {pieces : List Piece} (g : ChangeFeed)
    (hr : g.framer.records = []) (hread : f.reading = some pieces) :
    g.endOfReply.1.roundWork < f.roundWork := by
  rw [ChangeFeed.roundWork_endOfReply, hr, List.length_nil, ChangeFeed.roundWork_reading hread]
  omega

theorem roundWork_setFeed_lt {s : Session} {name : String} {f g : ChangeFeed}
    (hf : s.feed? name = some f) (hlt : g.roundWork < f.roundWork) :
    (s.setFeed name g).roundWork < s.roundWork := by
  have := roundWork_setFeed hf g
  omega

theorem plainReads_setFeed_of {s : Session} {name : String} {f g : ChangeFeed}
    (hf : s.feed? name = some f) (hplain : s.plainReads name)
    (hg : (g.reading.getD []).all Piece.plain) : (s.setFeed name g).plainReads name := by
  rw [plainReads_of_feed hf, Bool.and_eq_true] at hplain
  rw [plainReads_setFeed, hplain.1, hg]
  rfl

theorem reading_plain {s : Session} {name : String} {f : ChangeFeed} {pieces : List Piece}
    (hf : s.feed? name = some f) (hplain : s.plainReads name) (hread : f.reading = some pieces) :
    pieces.all Piece.plain := by
  rw [plainReads_of_feed hf, hread, Bool.and_eq_true] at hplain
  exact hplain.2

theorem send_plainReads {method path : String} {params : List (Value × Value)} {body : RequestBody}
    {s s' : Session} {y : Except Error Scripted} {name : String}
    (h : (send method path params body).run s = (y, s')) (hplain : s.plainReads name) :
    s'.plainReads name := by
  rcases send_cases h with ⟨u, -, -, rfl⟩ | ⟨qt, query, -, req, -, -, hfeeds, hmove⟩
  · exact hplain
  · have hfeed : s'.feed? name = s.feed? name := by
      rw [feed?, feed?, hfeeds]
    rw [plainReads, hfeed]
    rw [plainReads, Bool.and_eq_true] at hplain
    rcases hmove with ⟨-, hnil, -⟩ | ⟨sc, hscript, -⟩
    · rw [hnil, hplain.2]
      rfl
    · rw [hscript, List.all_cons, Bool.and_eq_true] at hplain
      rw [hplain.1.2, hplain.2]
      rfl

theorem send_error_unlike {method path : String} {params : List (Value × Value)}
    {body : RequestBody} {s s' : Session} {e : Error}
    (h : (send method path params body).run s = (.error e, s')) : e.likeMalformed = false := by
  unfold send at h
  simp only [StateT.run_bind, StateT.run_get, pure_bind] at h
  split at h
  · cases h
    rfl
  · split at h
    · cases h
    · simp only [StateT.run_bind, StateT.run_set, pure_bind] at h
      split at h
      · split at h <;> cases h
        rfl
      · cases h
      · cases h

theorem statusFailure_unlike (depth : Nat) (operation docId : Value) (status : Int)
    (bs : List UInt8) : (statusFailure depth operation docId status bs).likeMalformed = false := by
  rcases hd : decodeBody depth operation status bs with e | v
  · unfold statusFailure
    rw [hd]
    rcases decodeBody_error hd with ⟨m, rfl⟩ | ⟨m, rfl⟩ | ⟨m, rfl⟩ <;> rfl
  · rw [statusFailure_of_reads hd]
    show ((errorForStatus (.int status) v operation docId).kind == .stream) = false
    rw [(errorForStatus_int status v operation docId).1]
    unfold statusKind
    split
    · rfl
    · split <;> rfl

theorem openFeed_error {name : String} {f : ChangeFeed} {depth : Nat} {s s' : Session} {e : Error}
    (hplain : s.script.all Scripted.plain) (h : (openFeed name f depth).run s = (.error e, s')) :
    s' = ((send "GET" (Percent.joinSegments [f.spec.db, "_changes"]) f.params .none).run s).2 ∧
      e.likeMalformed = false := by
  rcases hs : (send "GET" (Percent.joinSegments [f.spec.db, "_changes"]) f.params .none).run s
    with ⟨y, s₂⟩
  have hopen := h
  rw [openFeed, run_bind_run hs] at h
  rcases y with e | r | fl | e
  · cases h
    exact ⟨rfl, send_error_unlike hs⟩
  · obtain ⟨-, -, -, hscript, -⟩ := send_reply hs
    have hpieces : r.pieces.all Piece.plain := by
      rw [hscript, List.all_cons, Bool.and_eq_true] at hplain
      exact hplain.1
    obtain ⟨x₀, hx₀, hrun⟩ := readWhole_plain hpieces
    by_cases hst : 400 ≤ r.status
    · simp only [hst, if_true] at h
      rw [run_bind_run (hrun s₂)] at h
      rcases x₀ with e | fl | bs
      · cases h
        exact ⟨rfl, hx₀ _ rfl⟩
      · cases h
        exact ⟨rfl, rfl⟩
      · -- the body was read whole: the failure is the one its status chooses
        rw [openFeed_failed hs hst (hrun s₂)] at hopen
        obtain ⟨he, rfl⟩ := Prod.mk.inj hopen
        cases he
        exact ⟨rfl, statusFailure_unlike _ _ _ _ _⟩
    · simp only [hst, if_false, StateT.run_bind, StateT.run_modify, pure_bind] at h
      cases h
  · cases h
    exact ⟨rfl, rfl⟩
  · -- a crash of the transport, scripted as a move that reads plainly
    cases h
    refine ⟨rfl, ?_⟩
    rcases send_cases hs with ⟨u, -, hy, -⟩ | ⟨qt, query, -, req, -, -, -, ⟨-, -, hy⟩ | ⟨sc, hscript, hy | ⟨_, hy⟩⟩⟩
    · cases hy
    · cases hy
    · cases hy
      rw [hscript, List.all_cons, Bool.and_eq_true] at hplain
      simpa [Scripted.plain] using hplain.1
    · cases hy

theorem openFeed_ok {name : String} {f : ChangeFeed} {depth : Nat} {s s' : Session}
    (hf : s.feed? name = some f) (hr : f.framer.records = []) (hread : f.reading = none)
    (hplain : s.plainReads name) (h : (openFeed name f depth).run s = (.ok (), s')) :
    s'.roundWork < s.roundWork ∧ s'.plainReads name := by
  rcases hs : (send "GET" (Percent.joinSegments [f.spec.db, "_changes"]) f.params .none).run s
    with ⟨y, s₃⟩
  rcases openFeed_cases hs h with ⟨r, rfl, -, -, rfl⟩ | ⟨e, he, -⟩
  · obtain ⟨req, -, -, hscript, hs₃⟩ := send_reply hs
    have hf₃ : s₃.feed? name = some f := by
      rw [hs₃]
      exact hf
    have hmove : s.roundWork = Piece.listWork r.pieces + 2 + s₃.roundWork := by
      rw [hs₃]
      simp only [roundWork, hscript, scriptWork, Scripted.bodyWork]
      omega
    have hf₁ : ({ f with reading := some r.pieces } : ChangeFeed).roundWork =
        Piece.listWork r.pieces + 1 := by
      rw [ChangeFeed.roundWork_reading rfl]
      simp [hr]
    have hf₀ : f.roundWork = 0 := by
      rw [ChangeFeed.roundWork_closed hread, hr, List.length_nil]
    have hset := roundWork_setFeed hf₃ { f with reading := some r.pieces }
    refine ⟨by omega, ?_⟩
    rw [plainReads_of_feed hf, hscript] at hplain
    simp only [List.all_cons, Scripted.plain, Bool.and_eq_true] at hplain
    rw [plainReads_setFeed, Option.getD_some, hplain.1.1, hplain.1.2]
    rfl
  · cases he

/-! ### Two feeds side by side -/

/-- One round of a call, run on a session and on its twin that skips malformed records. -/
inductive TwinRound (name : String) (depth : Nat) (s : Session) : Prop where
  /-- Both go on, from twin sessions with less work. -/
  | goes_on (s₁ : Session) (hplain : s₁.plainReads name) (hwork : s₁.roundWork < s.roundWork)
      (hrun : ∀ fuel, (nextChangeWithin name depth (fuel + 1)).run s =
        (nextChangeWithin name depth fuel).run s₁)
      (hskip : ∀ fuel, (nextChangeWithin name depth (fuel + 1)).run (s.withPolicy name .skip) =
        (nextChangeWithin name depth fuel).run (s₁.withPolicy name .skip))
  /-- Both answer the same and leave twin sessions. -/
  | answers (r : Except Error (Option ChangeEvent)) (s₁ : Session) (hplain : s₁.plainReads name)
      (hkept : ¬ ChangeFeed.MalformedAnswer r)
      (hrun : ∀ fuel, (nextChangeWithin name depth (fuel + 1)).run s = (r, s₁))
      (hskip : ∀ fuel, (nextChangeWithin name depth (fuel + 1)).run (s.withPolicy name .skip) =
        (r, s₁.withPolicy name .skip))
  /-- The feed fails on a malformed record, which the twin skips to go on. -/
  | skips (reason : Except String Text) (text : String) (s₁ : Session)
      (hplain : s₁.plainReads name) (hwork : s₁.roundWork < s.roundWork)
      (hrun : ∀ fuel, (nextChangeWithin name depth (fuel + 1)).run s =
        (.error (ChangeFeed.malformedFailure reason text), s₁))
      (hskip : ∀ fuel, (nextChangeWithin name depth (fuel + 1)).run (s.withPolicy name .skip) =
        (nextChangeWithin name depth fuel).run (s₁.withPolicy name .skip))

section Twin

variable {name : String} {depth : Nat} {s : Session} {f : ChangeFeed}

theorem serve_twinRound (hf : s.feed? name = some f) {line : List UInt8} {rest : List (List UInt8)}
    (hr : f.framer.records = line :: rest) (hplain : s.plainReads name) : TwinRound name depth s := by
  have hf' : (s.withPolicy name .skip).feed? name = some (f.withPolicy .skip) := by simp [hf]
  have hrun := fun fuel => nextChangeWithin_serve name depth fuel s f line rest hf hr
  have hskip := fun fuel => nextChangeWithin_serve name depth fuel _ _ line rest hf' hr
  obtain ⟨hfst, hsnd⟩ := ChangeFeed.serveRecord_skip f (depth + 1) line rest
  have hwork := roundWork_setFeed_lt hf (serveRecord_roundWork_lt (d := depth + 1) hr)
  obtain ⟨-, -, hreading, -⟩ := ChangeFeed.serveRecord_fst f (depth + 1) line rest
  rcases hsv : f.serveRecord (depth + 1) line rest with ⟨f', r⟩
  rcases hsv' : (f.withPolicy .skip).serveRecord (depth + 1) line rest with ⟨g', r'⟩
  rw [hsv, hsv'] at hfst hsnd
  rw [hsv] at hwork hreading
  dsimp only at hfst hsnd hwork hreading
  subst hfst
  simp only [hsv] at hrun
  simp only [hsv'] at hskip
  -- the session after the round: the record is used up, the connection is as it was
  have hplain₁ : (s.setFeed name f').plainReads name := by
    rw [plainReads_setFeed, hreading, ← plainReads_of_feed hf]
    exact hplain
  -- the twin's session after the round is the twin of the feed's
  have htwin := setFeed_withPolicy s name .skip f'
  rcases hsnd with rfl | ⟨reason, rfl, rfl⟩
  · rcases r' with e | _ | ev
    · -- a failure of the twin is one of reading the record
      have hkept := ChangeFeed.not_malformedAnswer_of_unlike
        (ChangeFeed.serveRecord_skip_error (congrArg Prod.snd hsv'))
      exact .answers _ _ hplain₁ hkept hrun fun fuel => (hskip fuel).trans (by rw [← htwin])
    · exact .goes_on _ hplain₁ hwork hrun fun fuel => (hskip fuel).trans (by rw [← htwin])
    · exact .answers _ _ hplain₁ (ChangeFeed.not_malformedAnswer_ok _) hrun
        fun fuel => (hskip fuel).trans (by rw [← htwin])
  · exact .skips reason _ _ hplain₁ hwork hrun fun fuel => (hskip fuel).trans (by rw [← htwin])

theorem stop_twinRound (hf : s.feed? name = some f) (hr : f.framer.records = [])
    (hstop : f.cancelled = true ∨ f.finished = true) (hplain : s.plainReads name) :
    TwinRound name depth s := by
  have hf' : (s.withPolicy name .skip).feed? name = some (f.withPolicy .skip) := by simp [hf]
  refine .answers _ _ (plainReads_setFeed_of hf hplain rfl) (ChangeFeed.not_malformedAnswer_ok _)
    (fun fuel => nextChangeWithin_stop name depth fuel s f hf hr hstop) fun fuel => ?_
  rw [nextChangeWithin_stop name depth fuel _ _ hf' hr hstop, ← setFeed_withPolicy]
  rfl

theorem open_twinRound (hf : s.feed? name = some f) (hr : f.framer.records = [])
    (hc : f.cancelled = false) (hfin : f.finished = false) (hread : f.reading = none)
    (hplain : s.plainReads name) : TwinRound name depth s := by
  have hf' : (s.withPolicy name .skip).feed? name = some (f.withPolicy .skip) := by simp [hf]
  have hscript : s.script.all Scripted.plain := by
    rw [plainReads, Bool.and_eq_true] at hplain
    exact hplain.1
  have hrun := fun fuel => nextChangeWithin_open name depth fuel s f hf hr hc hfin hread
  have hskip := fun fuel => nextChangeWithin_open name depth fuel _ _ hf' hr hc hfin hread
  rcases ho : (openFeed name f depth).run s with ⟨x, s'⟩
  rw [openFeed_withPolicy s name .skip hscript ho] at hskip
  rw [ho] at hrun
  rcases x with e | ⟨⟩
  · -- the failure leaves the session as the request did
    obtain ⟨hs', hunlike⟩ := openFeed_error hscript ho
    have hplain' : s'.plainReads name := by
      rw [hs']
      exact send_plainReads rfl hplain
    exact .answers _ _ hplain' (ChangeFeed.not_malformedAnswer_of_unlike hunlike) hrun hskip
  · obtain ⟨hwork, hplain'⟩ := openFeed_ok hf hr hread hplain ho
    exact .goes_on _ hplain' hwork hrun hskip

theorem read_twinRound (hf : s.feed? name = some f) (hr : f.framer.records = [])
    (hc : f.cancelled = false) (hfin : f.finished = false) {pieces : List Piece}
    (hread : f.reading = some pieces) (hplain : s.plainReads name) : TwinRound name depth s := by
  have hf' : (s.withPolicy name .skip).feed? name = some (f.withPolicy .skip) := by simp [hf]
  -- the read meets no cancellation, and leaves a rest that reads plainly
  obtain ⟨hcs, hrest, hcrash⟩ := Piece.readOnce_plain (reading_plain hf hplain hread)
  rcases hone : readOnce pieces with ⟨cs, res, rest⟩
  rw [hone] at hcs hrest hcrash
  dsimp only at hcs hrest hcrash
  subst hcs
  cases res with
  | data bs =>
    refine .goes_on _
      (plainReads_setFeed_of (g := { f with reading := some rest, framer := f.framer.push bs })
        hf hplain hrest)
      (roundWork_setFeed_lt hf (push_roundWork_lt hr hread hone))
      (fun fuel => nextChangeWithin_data name depth fuel s f pieces rest bs hf hr hc hfin hread hone)
      fun fuel => ?_
    rw [nextChangeWithin_data name depth fuel _ _ pieces rest bs hf' hr hc hfin hread hone,
      ← setFeed_withPolicy]
    rfl
  | finished =>
    have hrun := fun fuel =>
      nextChangeWithin_finished name depth fuel s f pieces rest hf hr hc hfin hread hone
    have hskip := fun fuel =>
      nextChangeWithin_finished name depth fuel _ _ pieces rest hf' hr hc hfin hread hone
    have hend := ChangeFeed.endOfReply_withPolicy ({ f with reading := some rest } : ChangeFeed) .skip
    have hwork := roundWork_setFeed_lt hf
      (endOfReply_roundWork_lt ({ f with reading := some rest } : ChangeFeed) hr hread)
    have hclosed := ChangeFeed.endOfReply_fst ({ f with reading := some rest } : ChangeFeed)
    rcases he : ({ f with reading := some rest } : ChangeFeed).endOfReply with ⟨f', err⟩
    rw [he] at hend hwork hclosed
    dsimp only at hend hwork hclosed
    have hplain' : (s.setFeed name f').plainReads name :=
      plainReads_setFeed_of hf hplain (by rw [hclosed]; rfl)
    have htwin := setFeed_withPolicy s name .skip f'
    simp only [he] at hrun
    simp only [show ({ (f.withPolicy .skip) with reading := some rest } : ChangeFeed) =
      ({ f with reading := some rest } : ChangeFeed).withPolicy .skip from rfl, hend] at hskip
    cases err with
    | some e =>
      exact .answers _ _ hplain' (ChangeFeed.not_malformedAnswer_endOfReply he) hrun
        fun fuel => (hskip fuel).trans (by rw [← htwin])
    | none => exact .goes_on _ hplain' hwork hrun fun fuel => (hskip fuel).trans (by rw [← htwin])
  | fault fl =>
    have hrun := fun fuel =>
      nextChangeWithin_fault name depth fuel s f pieces rest fl hf hr hc hfin hread hone
    have hskip := fun fuel =>
      nextChangeWithin_fault name depth fuel _ _ pieces rest fl hf' hr hc hfin hread hone
    by_cases hto : f.spec.mode = .continuous ∧ fl.isTimeout = true
    · -- a timeout of a continuous feed ends the reply, to reconnect
      let g : ChangeFeed := { f with reading := some rest, framer := { f.framer with pendingBytes := [] } }
      have hend := ChangeFeed.endOfReply_withPolicy g .skip
      have hclosed := ChangeFeed.endOfReply_fst g
      have hplain' : (s.setFeed name g.endOfReply.1).plainReads name :=
        plainReads_setFeed_of hf hplain (by rw [hclosed]; rfl)
      refine .goes_on _ hplain' (roundWork_setFeed_lt hf (endOfReply_roundWork_lt g hr hread))
        (fun fuel => (hrun fuel).trans (if_pos hto)) fun fuel => ?_
      rw [hskip fuel, if_pos (by simpa using hto), ← setFeed_withPolicy]
      exact congrArg (fun t => (nextChangeWithin name depth fuel).run
        ((s.withPolicy name .skip).setFeed name t)) (congrArg Prod.fst hend)
    · refine .answers _ _ (plainReads_setFeed_of hf hplain rfl)
        (ChangeFeed.not_malformedAnswer_of_unlike rfl)
        (fun fuel => (hrun fuel).trans (if_neg hto)) fun fuel => ?_
      rw [hskip fuel, if_neg (by simpa using hto), ← setFeed_withPolicy]
      rfl
  | crash e =>
    refine .answers _ _ (plainReads_setFeed_of hf hplain rfl)
      (ChangeFeed.not_malformedAnswer_of_unlike (hcrash e rfl))
      (fun fuel => nextChangeWithin_crash hf hr hc hfin hread hone) fun fuel => ?_
    rw [nextChangeWithin_crash hf' hr hc hfin hread hone, ← setFeed_withPolicy]
    rfl

/-- Every round runs side by side on a session and on its skipping twin. -/
theorem twinRound (hplain : s.plainReads name) : TwinRound name depth s := by
  cases hf : s.feed? name with
  | none =>
    have hf' : (s.withPolicy name .skip).feed? name = none := by simp [hf]
    exact .answers _ _ hplain (ChangeFeed.not_malformedAnswer_ok _) (fun _ => nextChangeWithin_absent hf)
      fun _ => nextChangeWithin_absent hf'
  | some f =>
    cases hr : f.framer.records with
    | cons line rest => exact serve_twinRound hf hr hplain
    | nil =>
      cases hc : f.cancelled with
      | true => exact stop_twinRound hf hr (.inl hc) hplain
      | false =>
        cases hfin : f.finished with
        | true => exact stop_twinRound hf hr (.inr hfin) hplain
        | false =>
          cases hread : f.reading with
          | none => exact open_twinRound hf hr hc hfin hread hplain
          | some pieces => exact read_twinRound hf hr hc hfin hread hplain

end Twin

/-! ### Calls side by side -/

theorem nextChangeWithin_skip_fuel (name : String) (depth : Nat) :
    ∀ (fuel₁ fuel₂ : Nat) (s : Session), s.plainReads name → s.roundWork < fuel₁ →
      s.roundWork < fuel₂ →
      (nextChangeWithin name depth fuel₁).run (s.withPolicy name .skip) =
        (nextChangeWithin name depth fuel₂).run (s.withPolicy name .skip)
  | 0, _, _, _, h, _ => absurd h (Nat.not_lt_zero _)
  | _, 0, _, _, _, h => absurd h (Nat.not_lt_zero _)
  | fuel₁ + 1, fuel₂ + 1, s, hplain, h₁, h₂ => by
    cases (twinRound hplain : TwinRound name depth s) with
    | goes_on s₁ hplain₁ hwork _ hskip =>
      rw [hskip, hskip]
      exact nextChangeWithin_skip_fuel name depth fuel₁ fuel₂ s₁ hplain₁ (by omega) (by omega)
    | answers r s₁ _ _ _ hskip => rw [hskip, hskip]
    | skips reason text s₁ hplain₁ hwork _ hskip =>
      rw [hskip, hskip]
      exact nextChangeWithin_skip_fuel name depth fuel₁ fuel₂ s₁ hplain₁ (by omega) (by omega)

theorem nextChangeWithin_skip (name : String) (depth : Nat) :
    ∀ (fuel : Nat) (s : Session) {r : Except Error (Option ChangeEvent)} {s' : Session},
      s.plainReads name → s.roundWork < fuel →
      (nextChangeWithin name depth fuel).run s = (r, s') →
      s'.plainReads name ∧
        (¬ ChangeFeed.MalformedAnswer r ∧
            (nextChangeWithin name depth fuel).run (s.withPolicy name .skip) =
              (r, s'.withPolicy name .skip) ∨
          ∃ reason text fuel', r = .error (ChangeFeed.malformedFailure reason text) ∧
            s'.roundWork < s.roundWork ∧ s'.roundWork < fuel' ∧
            (nextChangeWithin name depth fuel).run (s.withPolicy name .skip) =
              (nextChangeWithin name depth fuel').run (s'.withPolicy name .skip))
  | 0, _, _, _, _, hw, _ => absurd hw (Nat.not_lt_zero _)
  | fuel + 1, s, r, s', hplain, hw, h => by
    cases (twinRound hplain : TwinRound name depth s) with
    | goes_on s₁ hplain₁ hwork hrun hskip =>
      rw [hrun] at h
      obtain ⟨hplain', ⟨hkept, hsame⟩ | ⟨reason, text, fuel', hr, hless, hfuel, hskip'⟩⟩ :=
        nextChangeWithin_skip name depth fuel s₁ hplain₁ (by omega) h
      · exact ⟨hplain', .inl ⟨hkept, (hskip fuel).trans hsame⟩⟩
      · exact ⟨hplain', .inr ⟨reason, text, fuel', hr, by omega, hfuel, (hskip fuel).trans hskip'⟩⟩
    | answers r₀ s₁ hplain₁ hkept hrun hskip =>
      rw [hrun] at h
      obtain ⟨rfl, rfl⟩ := Prod.mk.inj h
      exact ⟨hplain₁, .inl ⟨hkept, hskip fuel⟩⟩
    | skips reason text s₁ hplain₁ hwork hrun hskip =>
      rw [hrun] at h
      obtain ⟨rfl, rfl⟩ := Prod.mk.inj h
      exact ⟨hplain₁, .inr ⟨reason, text, fuel, rfl, hwork, by omega, hskip fuel⟩⟩

/-- The twin's answers are the feed's with every failure for a malformed record left out. -/
inductive SkipsMalformed :
    List (Except Error (Option ChangeEvent)) → List (Except Error (Option ChangeEvent)) → Prop where
  | nil : SkipsMalformed [] []
  | answer (o : Except Error (Option ChangeEvent)) (hkept : ¬ ChangeFeed.MalformedAnswer o)
      {os ts : List (Except Error (Option ChangeEvent))} :
      SkipsMalformed os ts → SkipsMalformed (o :: os) (o :: ts)
  | failure (reason : Except String Text) (text : String)
      {os ts : List (Except Error (Option ChangeEvent))} :
      SkipsMalformed os ts → SkipsMalformed (.error (ChangeFeed.malformedFailure reason text) :: os) ts

theorem SkipsMalformed.append {os₁ ts₁ os₂ ts₂ : List (Except Error (Option ChangeEvent))}
    (h₁ : SkipsMalformed os₁ ts₁) (h₂ : SkipsMalformed os₂ ts₂) :
    SkipsMalformed (os₁ ++ os₂) (ts₁ ++ ts₂) := by
  induction h₁ with
  | nil => exact h₂
  | answer o hkept _ ih => exact .answer o hkept ih
  | failure reason text _ ih => exact .failure reason text ih

theorem nextChanges_add (name : String) (depth : Nat) (k : Nat) :
    ∀ (j : Nat) (s : Session), (nextChanges name depth (j + k)).run s =
      (((nextChanges name depth j).run s).1 ++
          ((nextChanges name depth k).run ((nextChanges name depth j).run s).2).1,
        ((nextChanges name depth k).run ((nextChanges name depth j).run s).2).2)
  | 0, s => by rw [Nat.zero_add]; rfl
  | j + 1, s => by
    rw [Nat.add_right_comm, nextChanges_succ, nextChanges_succ]
    dsimp only
    rw [nextChanges_add name depth k j]
    rfl

theorem nextChange_skip (name : String) (depth : Nat) (s : Session) (hplain : s.plainReads name) :
    ∃ k, SkipsMalformed ((nextChanges name depth (k + 1)).run s).1
        [((nextChange name depth).run (s.withPolicy name .skip)).1] ∧
      ((nextChange name depth).run (s.withPolicy name .skip)).2 =
        ((nextChanges name depth (k + 1)).run s).2.withPolicy name .skip ∧
      ((nextChanges name depth (k + 1)).run s).2.plainReads name := by
  induction hw : s.roundWork using Nat.strongRecOn generalizing s with
  | ind w ih =>
    subst hw
    -- the twin's call, with as many rounds as the feed's
    have hfuel : (nextChange name depth).run (s.withPolicy name .skip) =
        (nextChangeWithin name depth (s.workBound + 1)).run (s.withPolicy name .skip) := by
      rw [nextChange_run]
      have := roundWork_lt_workBound (s.withPolicy name .skip)
      rw [roundWork_withPolicy] at this
      exact nextChangeWithin_skip_fuel name depth _ _ s hplain this (roundWork_lt_workBound s)
    rcases hcall : (nextChangeWithin name depth (s.workBound + 1)).run s with ⟨r, s'⟩
    have hone : (nextChanges name depth 1).run s = ([r], s') := by
      rw [nextChanges_succ, hcall]
      rfl
    obtain ⟨hplain', ⟨hkept, hsame⟩ | ⟨reason, text, fuel', rfl, hless, hfuel', hskip⟩⟩ :=
      nextChangeWithin_skip name depth _ s hplain (roundWork_lt_workBound s) hcall
    · refine ⟨0, ?_, ?_, ?_⟩ <;> rw [hone]
      · rw [hfuel, hsame]
        exact .answer r hkept .nil
      · rw [hfuel, hsame]
      · exact hplain'
    · -- the feed failed on a malformed record: the twin's call is the twin's next call from there
      obtain ⟨k, hrel, hstate, hplain''⟩ := ih _ hless s' hplain' rfl
      have hnext : (nextChange name depth).run (s.withPolicy name .skip) =
          (nextChange name depth).run (s'.withPolicy name .skip) := by
        rw [hfuel, hskip, nextChange_run]
        have := roundWork_lt_workBound (s'.withPolicy name .skip)
        rw [roundWork_withPolicy] at this
        exact nextChangeWithin_skip_fuel name depth _ _ s' hplain' hfuel' this
      have hsplit := nextChanges_add name depth (k + 1) 1 s
      rw [Nat.add_comm 1 (k + 1), hone] at hsplit
      refine ⟨k + 1, ?_, ?_, ?_⟩ <;> rw [hsplit] <;> dsimp only
      · rw [hnext]
        exact .failure reason text hrel
      · rw [hnext, hstate]
      · exact hplain''

/-- A feed that skips malformed records answers as one that fails on them, less those failures. -/
theorem skipping_drops_malformed_failures (name : String) (depth : Nat) :
    ∀ (k : Nat) (s : Session), s.plainReads name →
      ∃ k', SkipsMalformed ((nextChanges name depth k').run s).1
          ((nextChanges name depth k).run (s.withPolicy name .skip)).1 ∧
        ((nextChanges name depth k).run (s.withPolicy name .skip)).2 =
          ((nextChanges name depth k').run s).2.withPolicy name .skip
  | 0, s, _ => ⟨0, .nil, rfl⟩
  | k + 1, s, hplain => by
    obtain ⟨j, hrel, hstate, hplain'⟩ := nextChange_skip name depth s hplain
    obtain ⟨k', hrel', hstate'⟩ :=
      skipping_drops_malformed_failures name depth k _ hplain'
    have hskip : (nextChanges name depth (k + 1)).run (s.withPolicy name .skip) =
        (((nextChange name depth).run (s.withPolicy name .skip)).1 ::
            ((nextChanges name depth k).run ((nextChange name depth).run (s.withPolicy name .skip)).2).1,
          ((nextChanges name depth k).run ((nextChange name depth).run (s.withPolicy name .skip)).2).2) := by
      rw [nextChanges_succ, nextChange_run]
    refine ⟨(j + 1) + k', ?_, ?_⟩ <;> rw [nextChanges_add name depth k' (j + 1) s, hskip, hstate]
    · exact hrel.append hrel'
    · exact hstate'

/-- A bounded feed whose first record has a numbered id, read failing and skipping. -/
theorem skipping_drops_malformed_failures_numbered_id :
    let f : ChangeFeed :=
      { spec := ⟨"users", .model .user, .bounded, .bool false, .raise, []⟩, lastSeq := .null }
    let body := "\x7b\"seq\":1,\"id\":\"a\",\"changes\":[\x7b\"rev\":\"1-a\"\x7d],\"doc\":\x7b\"_id\":5\x7d\x7d\n" ++
      "\x7b\"seq\":2,\"id\":\"b\",\"changes\":[\x7b\"rev\":\"1-b\"\x7d]\x7d\n\x7b\"last_seq\":2\x7d\n"
    let s : Session := { base := { scheme := "http", host := "couch.test", path := "/" },
                         authorization := none, stem := .str "",
                         script := [.reply ⟨200, [.bytes body.toUTF8.toList]⟩],
                         feeds := [("changes", f)] }
    s.plainReads "changes" = true ∧
      ∃ k', SkipsMalformed ((nextChanges "changes" 1 k').run s).1
          ((nextChanges "changes" 1 2).run (s.withPolicy "changes" .skip)).1 ∧
        ((nextChanges "changes" 1 2).run (s.withPolicy "changes" .skip)).2 =
          ((nextChanges "changes" 1 k').run s).2.withPolicy "changes" .skip := by
  intro f body s
  have hplain : s.plainReads "changes" = true := by decide
  exact ⟨hplain, skipping_drops_malformed_failures "changes" 1 2 s hplain⟩

/-- The class of the failure an answer is; none for a change or the end. -/
def failureClass : Except Error (Option ChangeEvent) → Option String
  | .error e => some e.className
  | .ok _ => none

/-- A record whose text cannot be written fails as a type error, not a stream error. -/
theorem numbered_document_id_fails_as_type_error :
    let f : ChangeFeed :=
      { spec := ⟨"users", .model .user, .bounded, .bool false, .raise, []⟩, lastSeq := .null }
    let body := "\x7b\"seq\":1,\"id\":\"a\",\"changes\":[\x7b\"rev\":\"1-a\"\x7d],\"doc\":\x7b\"_id\":5\x7d\x7d\n" ++
      "\x7b\"seq\":2,\"id\":\"b\",\"changes\":[\x7b\"rev\":\"1-b\"\x7d]\x7d\n\x7b\"last_seq\":2\x7d\n"
    let s : Session := { base := { scheme := "http", host := "couch.test", path := "/" },
                         authorization := none, stem := .str "",
                         script := [.reply ⟨200, [.bytes body.toUTF8.toList]⟩],
                         feeds := [("changes", f)] }
    let raised := ((nextChanges "changes" 1 3).run s).1
    let skipped := ((nextChanges "changes" 1 2).run (s.withPolicy "changes" .skip)).1
    raised.map failureClass = [some "TypeError", none, none] ∧
      skipped.map failureClass = [none, none] ∧
      (delivered raised).map (fun ev => sinceFor ev.seq) = [some "2"] ∧
      (delivered skipped).map (fun ev => sinceFor ev.seq) = [some "2"] := by
  decide +kernel

end Session

end DocClient
