import DocClient.Proofs.Changes.Rounds
/-!
# What the calls of a feed send and take

`Takes s s' more taken`: a run logged the requests `more` and took the scripted moves `taken`,
one per request. Every operation of a feed runs so (`nextChanges_grows`).
-/
namespace DocClient

namespace Session

/-- Requests only added, and one scripted move taken from the front for each while any are left. -/
def Takes (s s' : Session) (more : List Request) (taken : List Scripted) : Prop :=
  s'.sent = s.sent ++ more ∧ s.script = taken ++ s'.script ∧
    (taken.length = more.length ∨ s'.script = [] ∧ taken.length ≤ more.length)

/-- One session leads to another by requests and the moves that answer them. -/
def Grows (s s' : Session) : Prop := ∃ more taken, Takes s s' more taken

theorem Takes.of_eq {s s' : Session} {m t m' t'} (h : Takes s s' m t)
    (hs : s'.sent = s.sent ++ m') (hc : s.script = t' ++ s'.script) : m = m' ∧ t = t' := by
  obtain ⟨hs₀, hc₀, -⟩ := h
  rw [hs] at hs₀
  rw [hc] at hc₀
  exact ⟨(List.append_cancel_left hs₀).symm, (List.append_cancel_right hc₀).symm⟩

/-- A run cut in two takes the requests and moves of its parts, in order. -/
theorem Takes.split {s s₁ s' : Session} {more taken m₁ t₁ m₂ t₂}
    (h : Takes s s' more taken) (h₁ : Takes s s₁ m₁ t₁) (h₂ : Takes s₁ s' m₂ t₂) :
    more = m₁ ++ m₂ ∧ taken = t₁ ++ t₂ ∧ (t₁.length = m₁.length ∨ t₂ = []) := by
  obtain ⟨hs₁, hc₁, ha₁⟩ := h₁
  obtain ⟨hs₂, hc₂, -⟩ := h₂
  obtain ⟨hm, ht⟩ := h.of_eq (by rw [hs₂, hs₁, List.append_assoc])
    (by rw [hc₁, hc₂, List.append_assoc])
  refine ⟨hm, ht, ha₁.imp_right fun ⟨hnil, _⟩ => ?_⟩
  rw [hnil] at hc₂
  exact (List.append_eq_nil_iff.mp hc₂.symm).1

theorem Grows.of_keeps {s s' : Session} (hsent : s'.sent = s.sent) (hscript : s'.script = s.script) :
    Grows s s' :=
  ⟨[], [], by simp [hsent], by simp [hscript], .inl rfl⟩

theorem Grows.refl (s : Session) : Grows s s := Grows.of_keeps rfl rfl

theorem Grows.trans {s₁ s₂ s₃ : Session} (h₁ : Grows s₁ s₂) (h₂ : Grows s₂ s₃) : Grows s₁ s₃ := by
  obtain ⟨m₁, t₁, hs₁, hc₁, ha₁⟩ := h₁
  obtain ⟨m₂, t₂, hs₂, hc₂, ha₂⟩ := h₂
  refine ⟨m₁ ++ m₂, t₁ ++ t₂, by rw [hs₂, hs₁, List.append_assoc], by rw [hc₁, hc₂, List.append_assoc], ?_⟩
  rcases ha₁ with ha₁ | ⟨hnil, hle₁⟩
  · rcases ha₂ with ha₂ | ⟨hnil₂, hle₂⟩
    · exact .inl (by simp [ha₁, ha₂])
    · exact .inr ⟨hnil₂, by simp; omega⟩
  · -- once the script has run out, no move is taken
    have ht₂ : t₂ = [] := by
      rw [hnil] at hc₂
      exact (List.append_eq_nil_iff.mp hc₂.symm).1
    have hs₃ : s₃.script = [] := by
      rw [hnil] at hc₂
      exact (List.append_eq_nil_iff.mp hc₂.symm).2
    exact .inr ⟨hs₃, by simp [ht₂]; omega⟩

theorem Grows.of_same {s t t' : Session} (h : Grows s t) (hsent : t'.sent = t.sent)
    (hscript : t'.script = t.script) : Grows s t' := by
  obtain ⟨m, u, hs, hc, ha⟩ := h
  exact ⟨m, u, by rw [hsent, hs], by rw [hscript, hc], by rwa [hscript]⟩

theorem Grows.setFeed {s s' : Session} (h : Grows s s') (name : String) (f : ChangeFeed) :
    Grows s (s'.setFeed name f) :=
  h.of_same rfl rfl

theorem cancelEach_preserves (P : Session → Prop)
    (hP : ∀ {t t' : Session} {n : String} {d : Bool}, t.cancelNamed n d = .ok t' → P t → P t') :
    ∀ (cs : List (String × Bool)) {s : Session}, P s → P ((cancelEach cs).run s).2
  | [], _, hs => hs
  | (n, d) :: rest, s, hs => by
    simp only [cancelEach, StateT.run_bind, StateT.run_get, pure_bind]
    cases hc : s.cancelNamed n d with
    | error e => exact hs
    | ok s₁ =>
      simp only [StateT.run_bind, StateT.run_set, pure_bind]
      exact cancelEach_preserves P hP rest (hP hc hs)

theorem cancelEach_keeps (cs : List (String × Bool)) (s : Session) :
    ((cancelEach cs).run s).2.sent = s.sent ∧ ((cancelEach cs).run s).2.script = s.script := by
  refine cancelEach_preserves (fun t => t.sent = s.sent ∧ t.script = s.script) ?_ cs ⟨rfl, rfl⟩
  intro t t' n d hc ht
  obtain ⟨hsent, hscript⟩ := cancelNamed_keeps hc
  exact ⟨hsent.trans ht.1, hscript.trans ht.2⟩

section Send

variable {method path : String} {params : List (Value × Value)} {body : RequestBody}

/-- A send logs one request and takes the next scripted move, unless its query cannot be encoded. -/
theorem send_cases {s s' : Session} {y : Except Error Scripted}
    (h : (send method path params body).run s = (y, s')) :
    (∃ u, requestQuery (s.base.join path).query params = .error u ∧ y = .error (.unencodable u) ∧
      s' = s) ∨
    ∃ qt query, requestQuery (s.base.join path).query params = .ok (qt, query) ∧
      ∃ req : Request, s'.sent = s.sent ++ [req] ∧ req.query = query ∧ s'.feeds = s.feeds ∧
        ((s.script = [] ∧ s'.script = [] ∧ y = .ok (.fault noReply)) ∨
          ∃ sc, s.script = sc :: s'.script ∧ (y = .ok sc ∨ ∃ e, y = .error e)) := by
  unfold send at h
  simp only [StateT.run_bind, StateT.run_get, pure_bind] at h
  split at h
  · rename_i u hq
    cases h
    exact .inl ⟨u, hq, rfl, rfl⟩
  · rename_i qt query hq
    refine .inr ⟨qt, query, hq, ?_⟩
    split at h
    · rename_i hs
      cases h
      exact ⟨_, rfl, rfl, rfl, .inl ⟨hs, hs, rfl⟩⟩
    · rename_i sc rest hs
      simp only [StateT.run_bind, StateT.run_set, pure_bind] at h
      cases sc with
      | reply r =>
        simp only at h
        split at h
        · cases h
          exact ⟨_, rfl, rfl, rfl, .inr ⟨_, hs, .inl rfl⟩⟩
        · cases h
          exact ⟨_, rfl, rfl, rfl, .inr ⟨_, hs, .inr ⟨_, rfl⟩⟩⟩
      | fault fl =>
        cases h
        exact ⟨_, rfl, rfl, rfl, .inr ⟨_, hs, .inl rfl⟩⟩
      | crash e =>
        cases h
        exact ⟨_, rfl, rfl, rfl, .inr ⟨_, hs, .inl rfl⟩⟩

end Send

theorem send_grows (method path : String) (params : List (Value × Value)) (body : RequestBody)
    (s : Session) : Grows s ((send method path params body).run s).2 := by
  unfold send
  simp only [StateT.run_bind, StateT.run_get, pure_bind]
  split
  · exact Grows.refl s
  · rcases hs : s.script with _ | ⟨r, rest⟩
    · -- no move left: the request is logged and answered by nobody
      simp only [StateT.run_bind, StateT.run_set, pure_bind]
      exact ⟨[_], [], rfl, by rw [hs]; rfl, .inr ⟨rfl, by simp⟩⟩
    · simp only [StateT.run_bind, StateT.run_set, pure_bind]
      split <;> exact ⟨[_], [_], rfl, by rw [hs]; rfl, .inl rfl⟩

theorem openFeed_cases {name : String} {f : ChangeFeed} {depth : Nat} {s s₁ s₂ : Session}
    {x : Except Error Unit} {y : Except Error Scripted}
    (hs : (send "GET" (Percent.joinSegments [f.spec.db, "_changes"]) f.params .none).run s = (y, s₂))
    (h : (openFeed name f depth).run s = (x, s₁)) :
    (∃ r, y = .ok (.reply r) ∧ r.status < 400 ∧ x = .ok () ∧
      s₁ = s₂.setFeed name { f with reading := some r.pieces }) ∨
    (∃ e, x = .error e ∧ s₁.sent = s₂.sent ∧ s₁.script = s₂.script ∧
      (s₁ = s₂ ∨ ∃ r, y = .ok (.reply r) ∧ 400 ≤ r.status)) := by
  rw [openFeed, run_bind_run hs] at h
  rcases y with e | r | fl | e
  · cases h
    exact .inr ⟨_, rfl, rfl, rfl, .inl rfl⟩
  · by_cases hst : 400 ≤ r.status
    · -- a failure status: the body is read, which only cancels feeds
      simp only [hst, if_true] at h
      rcases hw : (readWhole r.pieces).run.run s₂ with ⟨w, s₃⟩
      rw [run_bind_run hw] at h
      obtain ⟨hsent, hscript⟩ := readWhole_keeps _ _ _ _ hw
      -- whatever the body, the open fails where the read left the session
      have hfail : ∃ e, x = .error e ∧ s₁ = s₃ := by
        split at h
        · cases h
          exact ⟨_, rfl, rfl⟩
        · cases h
          exact ⟨_, rfl, rfl⟩
        · split at h <;> cases h <;> exact ⟨_, rfl, rfl⟩
      obtain ⟨e, rfl, rfl⟩ := hfail
      exact .inr ⟨e, rfl, hsent, hscript, .inr ⟨r, rfl, hst⟩⟩
    · simp only [hst, if_false] at h
      cases h
      exact .inl ⟨r, rfl, by omega, rfl, rfl⟩
  · cases h
    exact .inr ⟨_, rfl, rfl, rfl, .inl rfl⟩
  · cases h
    exact .inr ⟨_, rfl, rfl, rfl, .inl rfl⟩

theorem openFeed_grows (name : String) (f : ChangeFeed) (depth : Nat) (s : Session) :
    Grows s ((openFeed name f depth).run s).2 := by
  have hsend := send_grows "GET" (Percent.joinSegments [f.spec.db, "_changes"]) f.params .none s
  rcases hs : (send "GET" (Percent.joinSegments [f.spec.db, "_changes"]) f.params .none).run s with
    ⟨y, s₂⟩
  rw [hs] at hsend
  rcases ho : (openFeed name f depth).run s with ⟨x, s₁⟩
  -- after the send only the feed is stored, or the body of a failure read
  rcases openFeed_cases hs ho with ⟨r, -, -, -, rfl⟩ | ⟨e, -, hsent, hscript, -⟩
  · exact hsend.setFeed _ _
  · exact hsend.of_same hsent hscript

theorem cancelEach_grows (cs : List (String × Bool)) (s : Session) :
    Grows s ((cancelEach cs).run s).2 :=
  Grows.of_keeps (cancelEach_keeps cs s).1 (cancelEach_keeps cs s).2

/-- A call for the next change takes one scripted move per request it sends. -/
theorem nextChangeWithin_grows (name : String) (depth : Nat) :
    ∀ (fuel : Nat) (s : Session), Grows s ((nextChangeWithin name depth fuel).run s).2
  | 0, s => Grows.refl s
  | fuel + 1, s => by
    rw [nextChangeWithin]
    simp only [StateT.run_bind, StateT.run_get, pure_bind]
    split
    · exact Grows.refl s
    · rename_i f hf
      split
      · simp only [StateT.run_bind, StateT.run_set, pure_bind]
        split
        · exact ((Grows.refl s).setFeed _ _).trans (nextChangeWithin_grows name depth fuel _)
        · exact (Grows.refl s).setFeed _ _
      · split
        · simp only [StateT.run_bind, StateT.run_set, pure_bind]
          exact (Grows.refl s).setFeed _ _
        · split
          · have hopen := openFeed_grows name f depth s
            rcases ho : (openFeed name f depth).run s with ⟨x, s₁⟩
            rw [ho] at hopen
            rw [run_bind_run ho]
            split
            · exact hopen
            · exact hopen.trans (nextChangeWithin_grows name depth fuel s₁)
          · rename_i pieces hread
            rw [StateT.run_bind, StateT.run_set, pure_bind]
            have h₁ := cancelEach_grows (readOnce pieces).1
              (s.setFeed name { f with reading := some (readOnce pieces).2.2 })
            rcases hc : (cancelEach (readOnce pieces).1).run
              (s.setFeed name { f with reading := some (readOnce pieces).2.2 }) with ⟨c, s₂⟩
            rw [hc] at h₁
            rw [run_bind_run hc]
            have h₂ : Grows s s₂ := ((Grows.refl s).setFeed _ _).trans h₁
            -- every way on stores the feed, gives up, or goes on with another round
            split
            · simp only [StateT.run_bind, StateT.run_modify, pure_bind]
              exact h₂.of_same (by split <;> rfl) (by split <;> rfl)
            · simp only [StateT.run_bind, StateT.run_modify, pure_bind]
              exact h₂.of_same (by split <;> rfl) (by split <;> rfl)
            · simp only [StateT.run_bind, StateT.run_get, pure_bind]
              split
              · exact h₂
              · split
                · exact h₂.trans (nextChangeWithin_grows name depth fuel s₂)
                · split
                  · simp only [StateT.run_bind, StateT.run_set, pure_bind]
                    exact (h₂.setFeed _ _).trans (nextChangeWithin_grows name depth fuel _)
                  · simp only [StateT.run_bind, StateT.run_set, pure_bind]
                    split
                    · exact h₂.setFeed _ _
                    · exact (h₂.setFeed _ _).trans (nextChangeWithin_grows name depth fuel _)
                  · simp only [StateT.run_bind, StateT.run_modify, pure_bind]
                    exact h₂.of_same (by split <;> rfl) (by split <;> rfl)
                  · split
                    · simp only [StateT.run_bind, StateT.run_set, pure_bind]
                      exact (h₂.setFeed _ _).trans (nextChangeWithin_grows name depth fuel _)
                    · simp only [StateT.run_bind, StateT.run_set, pure_bind]
                      exact h₂.setFeed _ _

theorem nextChanges_grows (name : String) (depth : Nat) :
    ∀ (k : Nat) (s : Session), Grows s ((nextChanges name depth k).run s).2
  | 0, s => Grows.refl s
  | k + 1, s => by
    rw [nextChanges_succ]
    exact (nextChangeWithin_grows name depth _ s).trans (nextChanges_grows name depth k _)

end Session

end DocClient
