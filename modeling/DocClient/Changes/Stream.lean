import DocClient.Database.Basic
/-!
Reading a change feed: each call serves the records already framed, else opens a connection
if none is open and reads one piece of the body. A bounded feed finishes at the end of a
reply; a continuous one reconnects from its last sequence.
-/
namespace DocClient

namespace ChangeFeed

/-- A stream failure of a feed. -/
def streamError (message : Text) (line : String) : Error :=
  .client { kind := .stream, message := .str message, operation := .str "changes", line := .str line }

/-- The end of a reply: the connection closes and a record cut off is a failure. -/
def endOfReply (f : ChangeFeed) : ChangeFeed × Option Error :=
  let tail := Blank.trimBytesBy Blank.isAsciiBlank f.framer.tail
  let f' := { f with reading := none, framer := { f.framer with pendingBytes := [] },
                     finished := f.finished || f.spec.mode = .bounded }
  if tail.isEmpty then (f', none)
  else (f', some (streamError "Changes feed ended in the middle of a record"
    (String.ofList (Utf8.decodeReplacing tail))))

/-- Serve the next framed record: the feed after it and what it delivers. -/
def serveRecord (f : ChangeFeed) (depth : Nat) (line : List UInt8) (rest : List (List UInt8)) :
    ChangeFeed × Except Error (Option ChangeEvent) :=
  let f := { f with framer := { f.framer with records := rest } }
  let text := recordText line
  match readRecord depth f.spec.adapter text with
  | .error e => (f, .error e)
  | .ok (.batchEnd seq) =>
    if f.spec.mode = .bounded then
      ({ f with lastSeq := seq, finished := true, framer := { f.framer with records := [] } }, .ok none)
    else ({ f with lastSeq := seq }, .ok none)
  | .ok (.malformed reason) =>
    if f.spec.policy = .skip then (f, .ok none)
    else
      match reason with
      | .ok r => (f, .error (streamError ("Malformed change record: " ++ r) text))
      | .error m => (f, .error (.type m))
  | .ok (.change ev) => ({ f with lastSeq := ev.seq }, .ok (some ev))

end ChangeFeed

namespace Session

/-- The bytes and pieces the script still holds, a bound on the work of reading feeds. -/
def workBound (s : Session) : Nat :=
  let pieceSize : Piece → Nat := fun
    | .bytes bs => bs.length + 1
    | _ => 1
  let piecesSize (ps : List Piece) : Nat := ps.foldl (fun n p => n + pieceSize p) 0
  let scriptSize := s.script.foldl (fun n r => n + 2 + match r with
    | .reply r => piecesSize r.pieces
    | _ => 0) 0
  let feedSize := s.feeds.foldl (fun n f => n + 2 + f.2.framer.records.length +
    piecesSize (f.2.reading.getD [])) 0
  2 * (scriptSize + feedSize) + 4

/-- Open a feed's connection; a failure leaves the feed closed. -/
def openFeed (name : String) (f : ChangeFeed) (depth : Nat) : StateM Session (Except Error Unit) := do
  let fail (msg : String) : Error := transportError ("Stream failed: " ++ msg) (.str "changes") .null
  let p := Percent.joinSegments [f.spec.db, "_changes"]
  match ← send "GET" p f.params .none with
  | .error e => pure (.error e)
  | .ok (.fault fl) => pure (.error (fail fl.message))
  | .ok (.crash e) => pure (.error e)
  | .ok (.reply r) =>
    if 400 ≤ r.status then
      match ← (readWhole r.pieces).run with
      | .error e => pure (.error e)
      | .ok (.error fl) => pure (.error (fail fl.message))
      | .ok (.ok bs) =>
        match decodeBody (depth + 6) (.str "changes") r.status bs with
        | .error e => pure (.error e)
        | .ok body => pure (.error (.client (errorForStatus (.int r.status) body (.str "changes"))))
    else
      modify fun s => s.setFeed name { f with reading := some r.pieces }
      pure (.ok ())

/-- Read the next change of the named feed within `fuel` rounds. -/
def nextChangeWithin (name : String) (depth : Nat) : Nat → StateM Session (Except Error (Option ChangeEvent))
  | 0 => pure (.ok none)
  | fuel + 1 => do
    let s ← get
    match s.feed? name with
    | none => pure (.ok none)
    | some f =>
      match f.framer.records with
      | line :: rest =>
        let (f', r) := f.serveRecord (depth + 1) line rest
        set (s.setFeed name f')
        match r with
        | .ok none => nextChangeWithin name depth fuel
        | r => pure r
      | [] =>
        if f.cancelled || f.finished then
          set (s.setFeed name { f with reading := none })
          pure (.ok none)
        else
          match f.reading with
          | none =>
            match ← openFeed name f depth with
            | .error e => pure (.error e)
            | .ok () => nextChangeWithin name depth fuel
          | some pieces =>
            let (cancels, result, rest) := readOnce pieces
            set (s.setFeed name { f with reading := some rest })
            -- an error that is no connection failure ends the body: its later pieces are
            -- never read
            let crash (e : Error) : StateM Session (Except Error (Option ChangeEvent)) := do
              modify fun s => match s.feed? name with
                | some f => s.setFeed name { f with reading := some [] }
                | none => s
              pure (.error e)
            match ← cancelEach cancels, result with
            | .error e, _ | .ok (), .crash e => crash e
            | .ok (), _ =>
              let s ← get
              match s.feed? name with
              | none => pure (.ok none)
              | some f =>
                if f.cancelled then nextChangeWithin name depth fuel
                else
                  match result with
                  | .data bs =>
                    set (s.setFeed name { f with framer := f.framer.push bs })
                    nextChangeWithin name depth fuel
                  | .finished =>
                    let (f', err) := f.endOfReply
                    set (s.setFeed name f')
                    match err with
                    | some e => pure (.error e)
                    | none => nextChangeWithin name depth fuel
                  | .crash e => crash e
                  | .fault fl =>
                    if f.spec.mode = .continuous && fl.isTimeout then
                      let (f', _) := { f with framer := { f.framer with pendingBytes := [] } }.endOfReply
                      set (s.setFeed name f')
                      nextChangeWithin name depth fuel
                    else
                      set (s.setFeed name { f with reading := none })
                      pure (.error (transportError ("Changes feed read failed: " ++ fl.message)
                        (.str "changes") .null))

/-- The next change of the named feed, or none at its end. -/
def nextChange (name : String) (depth : Nat := 1) : StateM Session (Except Error (Option ChangeEvent)) := do
  let s ← get
  nextChangeWithin name depth (s.workBound + 1)

/-- Cancel the named feed. -/
def cancelFeed (name : String) (drain : Bool) : StateM Session Unit :=
  modify fun s => match s.feed? name with
    | some f => s.setFeed name (f.cancel drain)
    | none => s

/-- Close the named feed: cancel it, dropping queued records, and close its connection. -/
def closeFeed (name : String) : StateM Session Unit :=
  modify fun s => match s.feed? name with
    | some f => s.setFeed name { f.cancel false with reading := none }
    | none => s

end Session

end DocClient
