import DocClient.Http.Session
/-!
# What one request does to a session

Run lemmas for `Call`, one inversion lemma per layer of a request, and `request_sends_one`:
an answered request sends one request and takes one reply.
-/
namespace DocClient

section Runs

variable {ε σ α β : Type}

theorem run_bind_cases {x : ExceptT ε (StateM σ) α} {f : α → ExceptT ε (StateM σ) β} {s s'' : σ}
    {r : Except ε β} (h : (x >>= f).run.run s = (r, s'')) :
    (∃ e, x.run.run s = (.error e, s'') ∧ r = .error e) ∨
      ∃ a s', x.run.run s = (.ok a, s') ∧ (f a).run.run s' = (r, s'') := by
  rw [ExceptT.run_bind, StateT.run_bind] at h
  rcases hx : x.run.run s with ⟨e | a, s'⟩
  · rw [hx] at h
    cases h
    exact .inl ⟨e, rfl, rfl⟩
  · rw [hx] at h
    exact .inr ⟨a, s', rfl, h⟩

theorem run_bind_ok {x : ExceptT ε (StateM σ) α} {f : α → ExceptT ε (StateM σ) β} {s s'' : σ}
    {b : β} (h : (x >>= f).run.run s = (.ok b, s'')) :
    ∃ a s', x.run.run s = (.ok a, s') ∧ (f a).run.run s' = (.ok b, s'') := by
  rcases run_bind_cases h with ⟨e, -, he⟩ | hboth
  · cases he
  · exact hboth

theorem run_throw_bind {e : ε} {f : α → ExceptT ε (StateM σ) β} {s s' : σ} {b : β}
    (h : (throw e >>= f : ExceptT ε (StateM σ) β).run.run s = (.ok b, s')) : False := by
  obtain ⟨_, _, hthrow, -⟩ := run_bind_ok h
  cases hthrow

theorem run_bind_run {x : StateM σ α} {f : α → StateM σ β} {s s' : σ} {a : α}
    (h : x.run s = (a, s')) : (x >>= f).run s = (f a).run s' := by
  rw [StateT.run_bind, h]
  rfl

theorem run_bind_of_ok {x : ExceptT ε (StateM σ) α} {f : α → ExceptT ε (StateM σ) β} {s t : σ}
    {a : α} (h : x.run.run s = (.ok a, t)) : (x >>= f).run.run s = (f a).run.run t := by
  rw [ExceptT.run_bind, StateT.run_bind, h]
  rfl

theorem run_eq_ok_of_isOk {r : Except ε α × σ} (h : r.1.isOk = true) : ∃ a, r = (.ok a, r.2) := by
  rcases r with ⟨_ | a, s⟩
  · cases h
  · exact ⟨a, rfl⟩

theorem Except.eq_ok_getD {e : Except ε α} (h : e.isOk = true) (x : α) :
    e = .ok (e.toOption.getD x) := by
  cases e with
  | error => cases h
  | ok a => rfl

theorem run_eq_ok_getD {r : Except ε α × σ} (h : r.1.isOk = true) (x : α) :
    r = (.ok (r.1.toOption.getD x), r.2) :=
  Prod.ext (Except.eq_ok_getD h x) rfl

theorem run_liftState (m : StateM σ α) (s : σ) :
    (ExceptT.lift m : ExceptT ε (StateM σ) α).run.run s = (.ok (m.run s).1, (m.run s).2) := rfl

theorem mapM_run_of_pure (F : α → ExceptT ε (StateM σ) β) (g : α → Except ε β)
    (hF : ∀ a s, (F a).run.run s = (g a, s)) (l : List α) (s : σ) :
    (l.mapM F).run.run s = (l.mapM g, s) := by
  induction l with
  | nil => rfl
  | cons a l ih =>
    rw [List.mapM_cons, List.mapM_cons, ExceptT.run_bind, StateT.run_bind, hF]
    cases g a with
    | error e => rfl
    | ok b =>
      show (ExceptT.run (l.mapM F >>= fun bs => pure (b :: bs))).run s = _
      rw [ExceptT.run_bind, StateT.run_bind, ih]
      cases l.mapM g <;> rfl

theorem foldlM_run_of_ok {F : β → α → ExceptT ε (StateM σ) β} {g : β → α → β} {l : List α}
    (hF : ∀ acc x s, x ∈ l → (F acc x).run.run s = (.ok (g acc x), s)) :
    ∀ (init : β) (s : σ), (l.foldlM F init).run.run s = (.ok (l.foldl g init), s) := by
  induction l with
  | nil => exact fun _ _ => rfl
  | cons x l ih =>
    intro init s
    rw [List.foldlM_cons, run_bind_of_ok (hF init x s (List.mem_cons_self ..))]
    exact ih (fun acc y s hy => hF acc y s (List.mem_cons_of_mem _ hy)) _ s

end Runs

@[simp] theorem Call.run_lift {α : Type} (e : Except Error α) (s : Session) :
    (Call.lift e).run.run s = (e, s) := by
  cases e <;> rfl

theorem lift_run_ok {α : Type} {x : Except Error α} {s s' : Session} {a : α}
    (h : (Call.lift x).run.run s = (.ok a, s')) : x = .ok a ∧ s = s' := by
  rw [Call.run_lift, Prod.mk.injEq] at h
  exact h

namespace Session

@[simp] theorem setFeed_sent (s : Session) (name : String) (f : ChangeFeed) :
    (s.setFeed name f).sent = s.sent := rfl

@[simp] theorem setFeed_script (s : Session) (name : String) (f : ChangeFeed) :
    (s.setFeed name f).script = s.script := rfl

theorem cancelNamed_keeps {s s' : Session} {name : String} {drain : Bool}
    (h : s.cancelNamed name drain = .ok s') : s'.sent = s.sent ∧ s'.script = s.script := by
  unfold cancelNamed at h
  split at h
  · cases h
    exact ⟨rfl, rfl⟩
  · split at h <;> cases h

theorem readWhole_preserves (P : Session → Prop)
    (hP : ∀ {t t' : Session} {n : String} {d : Bool}, t.cancelNamed n d = .ok t' → P t → P t')
    (ps : List Piece) {s s' : Session} {x : Except Error (Except HttpFault (List UInt8))}
    (h : (readWhole ps).run.run s = (x, s')) (hs : P s) : P s' := by
  induction ps generalizing s s' x with
  | nil =>
    cases h
    exact hs
  | cons p rest ih =>
    cases p with
    | bytes bs =>
      rw [readWhole] at h
      rcases run_bind_cases h with ⟨e, hrest, -⟩ | ⟨y, s₁, hrest, h⟩
      · exact ih hrest hs
      · have hs₁ := ih hrest hs
        split at h <;> cases h <;> exact hs₁
    | fault f =>
      cases h
      exact hs
    | crash e =>
      cases h
      exact hs
    | cancel n d =>
      rw [readWhole] at h
      rcases run_bind_cases h with ⟨e, hget, -⟩ | ⟨s₀, s₁, hget, h⟩
      · cases hget
      · cases hget
        rcases run_bind_cases h with ⟨e, hlift, -⟩ | ⟨s₂, s₃, hlift, h⟩
        · rw [Call.run_lift, Prod.mk.injEq] at hlift
          obtain ⟨-, rfl⟩ := hlift
          exact hs
        · rw [Call.run_lift, Prod.mk.injEq] at hlift
          obtain ⟨hc, rfl⟩ := hlift
          rcases run_bind_cases h with ⟨e, hset, -⟩ | ⟨u, s₄, hset, h⟩
          · cases hset
          · cases hset
            exact ih h (hP hc hs)

theorem readWhole_keeps (ps : List Piece) (s s' : Session)
    (x : Except Error (Except HttpFault (List UInt8)))
    (h : (readWhole ps).run.run s = (x, s')) : s'.sent = s.sent ∧ s'.script = s.script := by
  refine readWhole_preserves (fun t => t.sent = s.sent ∧ t.script = s.script) ?_ ps h ⟨rfl, rfl⟩
  intro t t' n d hc ht
  obtain ⟨hsent, hscript⟩ := cancelNamed_keeps hc
  exact ⟨hsent.trans ht.1, hscript.trans ht.2⟩

variable {method path : String} {params : List (Value × Value)} {body : RequestBody}
variable {operation docId : Value} {s s' : Session}

theorem send_reply {r : Reply} (h : (send method path params body).run s = (.ok (.reply r), s')) :
    ∃ req : Request, req.method = method ∧ req.body = body ∧ s.script = .reply r :: s'.script ∧
      s' = { s with sent := s.sent ++ [req], script := s'.script } := by
  unfold send at h
  simp only [StateT.run_bind, StateT.run_get, pure_bind] at h
  split at h
  · cases h
  · rename_i queryText query _
    split at h
    · cases h
    · rename_i next rest hs
      simp only [StateT.run_bind, StateT.run_set, pure_bind] at h
      cases next with
      | reply r' =>
        simp only at h
        split at h
        · cases h
          exact ⟨_, rfl, rfl, hs, rfl⟩
        · cases h
      | fault _ => cases h
      | crash _ => cases h

theorem exchange_ok {status : Int} {bs : List UInt8}
    (h : (exchange operation docId method path params body).run.run s = (.ok (status, bs), s')) :
    ∃ r s₁, (send method path params body).run s = (.ok (.reply r), s₁) ∧ status = r.status ∧
      (readWhole r.pieces).run.run s₁ = (.ok (.ok bs), s') := by
  unfold exchange at h
  obtain ⟨sent, s₁, hsend, h⟩ := run_bind_ok h
  rw [run_liftState] at hsend
  rcases hs : (send method path params body).run s with ⟨x, s₂⟩
  rw [hs, Prod.mk.injEq] at hsend
  obtain ⟨hx, rfl⟩ := hsend
  cases hx
  -- only a reply whose body reads whole goes on; a fault or a crash is thrown
  rcases x with e | r | fl | e
  · cases h
  · obtain ⟨y, s₃, hread, h⟩ := run_bind_ok h
    rcases y with fl | bs'
    · cases h
    · cases h
      exact ⟨r, s₂, rfl, rfl, hread⟩
  · cases h
  · cases h

theorem request_ok {depth : Nat} {status : Int} {v : Value}
    (h : (request depth operation docId method path params body).run.run s = (.ok (status, v), s')) :
    ∃ bs, (exchange operation docId method path params body).run.run s = (.ok (status, bs), s') ∧
      decodeBody (depth + 2) operation status bs = .ok v := by
  unfold request at h
  obtain ⟨⟨status', bs⟩, s₁, hex, h⟩ := run_bind_ok h
  obtain ⟨v', s₂, hdec, h⟩ := run_bind_ok h
  rw [Call.run_lift, Prod.mk.injEq] at hdec
  obtain ⟨hdec, rfl⟩ := hdec
  cases h
  exact ⟨bs, hex, hdec⟩

theorem requestOk_ok {depth : Nat} {v : Value}
    (h : (requestOk depth operation docId method path params body).run.run s = (.ok v, s')) :
    ∃ status, (request (depth + 1) operation docId method path params body).run.run s =
      (.ok (status, v), s') ∧ status < 400 := by
  unfold requestOk at h
  obtain ⟨⟨status, v'⟩, s₁, hreq, h⟩ := run_bind_ok h
  by_cases hs : 400 ≤ status
  · simp only [hs, if_true] at h
    cases h
  · simp only [hs, if_false] at h
    cases h
    exact ⟨status, hreq, by omega⟩

/-- An answered request sends one request of its method and body, and takes one reply. -/
theorem request_sends_one {depth : Nat} {x : Int × Value}
    (h : (request depth operation docId method path params body).run.run s = (.ok x, s')) :
    ∃ (req : Request) (r : Reply), req.method = method ∧ req.body = body ∧
      s'.sent = s.sent ++ [req] ∧ s.script = .reply r :: s'.script := by
  obtain ⟨bs, hex, -⟩ := request_ok h
  obtain ⟨r, s₁, hsend, -, hread⟩ := exchange_ok hex
  obtain ⟨req, hm, hb, hscript, hs₁⟩ := send_reply hsend
  obtain ⟨hsent, hkept⟩ := readWhole_keeps _ _ _ _ hread
  refine ⟨req, r, hm, hb, ?_, ?_⟩
  · rw [hsent, hs₁]
  · rw [hkept]
    exact hscript

end Session

end DocClient
