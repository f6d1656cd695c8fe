/-
# PartitionedRollout.Proofs.Rollout.Errands -- which call was made for what

A run of a program whose requests are answered by other programs is one list of exchanges, and the
exchanges alone do not tell what they were made for: a collaborator reads the same store, looks at
the same signal and waits on the same clock as the program itself. `Errands` keeps that apart. An
errand is a request of the program together with the exchanges that were made to answer it, and
`run_handle_iff_errands` shows that the errands of a run are always there to be found, also in a
run in which an answer halts. The requests with their replies are then a run of the program itself,
and a moment of the run falls into one errand or between two.
-/

import PartitionedRollout.Proofs.Rollout.Handler

namespace PartitionedRollout

namespace Program

variable {α : Type}

/-- A reply for a request that got none. The signal is taken to be up. -/
def anyReply : (r : Request) → r.Reply
  | .get _ => .error default
  | .update _ => .error default
  | .transform _ => .error default
  | .verify _ _ => .error default
  | .check _ _ => none
  | .awaitReady => .error default
  | .probeHealth _ _ => .error default
  | .stopping => true
  | .sleep _ => true
  | .now => .zero
  | .draw _ _ => none
  | .fetch _ _ => none

/-- Every program ends in some way when it gets these replies. -/
theorem exists_run (p : Program α) :
    ∃ es e, Run p es e ∧ ∀ x ∈ es, x.reply = anyReply x.request := by
  induction p with
  | done a => exact ⟨[], .ok a, .done a, by simp⟩
  | halt h => exact ⟨[], .error h, .halt h, by simp⟩
  | ask r next ih =>
    obtain ⟨es, e, h, hes⟩ := ih (anyReply r)
    exact ⟨⟨r, anyReply r⟩ :: es, e, .ask _ h, List.forall_mem_cons.2 ⟨rfl, hes⟩⟩

/-- A request of a program, the exchanges that were made to answer it, and the reply, unless the
answer halted. -/
structure Errand where
  /-- The request. -/
  request : Request
  /-- The exchanges for it. -/
  calls : List Exchange
  /-- The reply. -/
  reply? : Option request.Reply

/-- The request with its reply. -/
def Errand.exchange (c : Errand) : Exchange :=
  ⟨c.request, c.reply?.getD (anyReply c.request)⟩

variable (f : (r : Request) → Program r.Reply)

/-- The errands of a run of a program whose requests are answered by other programs. -/
inductive Errands : Program α → List Errand → Ending α → Prop where
  | done (a : α) : Errands (.done a) [] (.ok a)
  | halt (h : Halt) : Errands (.halt h) [] (.error h)
  | ask {r : Request} {next : r.Reply → Program α} {x : r.Reply} {calls : List Exchange}
      {errands : List Errand} {e : Ending α} (head : Run (f r) calls (.ok x))
      (tail : Errands (next x) errands e) :
      Errands (.ask r next) (⟨r, calls, some x⟩ :: errands) e
  | stuck {r : Request} {next : r.Reply → Program α} {calls : List Exchange} {h : Halt}
      (head : Run (f r) calls (.error h)) :
      Errands (.ask r next) [⟨r, calls, none⟩] (.error h)

variable {f} {p : Program α} {errands : List Errand} {es : List Exchange} {e : Ending α}

/-- The runs of a handled program are those that fall into errands. -/
theorem run_handle_iff_errands :
    Run (p.handle f) es e ↔
      ∃ errands, Errands f p errands e ∧ es = errands.flatMap Errand.calls := by
  induction p generalizing es with
  | done a =>
    rw [handle_done, run_done_iff]
    constructor
    · rintro ⟨rfl, rfl⟩
      exact ⟨[], .done a, rfl⟩
    · rintro ⟨_, ⟨⟩, rfl⟩
      exact ⟨rfl, rfl⟩
  | halt h =>
    rw [handle_halt, run_halt_iff]
    constructor
    · rintro ⟨rfl, rfl⟩
      exact ⟨[], .halt h, rfl⟩
    · rintro ⟨_, ⟨⟩, rfl⟩
      exact ⟨rfl, rfl⟩
  | ask r next ih =>
    rw [handle, run_bind_iff]
    constructor
    · rintro (⟨x, calls, rest, rfl, head, hrest⟩ | ⟨h, rfl, head⟩)
      · obtain ⟨errands, tail, rfl⟩ := (ih x).1 hrest
        exact ⟨⟨r, calls, some x⟩ :: errands, .ask head tail, rfl⟩
      · exact ⟨[⟨r, es, none⟩], .stuck head, by simp⟩
    · rintro ⟨_, herrands, rfl⟩
      cases herrands with
      | @ask _ _ x calls errands _ head tail =>
        exact .inl ⟨x, calls, errands.flatMap Errand.calls, rfl, head,
          (ih x).2 ⟨errands, tail, rfl⟩⟩
      | @stuck _ _ calls h head => exact .inr ⟨h, rfl, by simpa using head⟩

/-- The errands are the calls of a run of the program itself. Where an answer halted, that run goes
on. -/
theorem Errands.run (h : Errands f p errands e) :
    ∃ more e', Run p (errands.map Errand.exchange ++ more) e' ∧
      (∀ x ∈ more, x.reply = anyReply x.request) ∧
      ∀ a, e = .ok a → more = [] ∧ e' = .ok a := by
  induction h with
  | done a => exact ⟨[], .ok a, .done a, by simp, fun _ h => ⟨rfl, h⟩⟩
  | halt h => exact ⟨[], .error h, .halt h, by simp, by simp⟩
  | ask head _ ih =>
    obtain ⟨more, e', hrun, hmore, hok⟩ := ih
    exact ⟨more, e', .ask _ hrun, hmore, hok⟩
  | @stuck r next calls h head =>
    obtain ⟨more, e', hrun, hmore⟩ := exists_run (next (anyReply r))
    exact ⟨more, e', .ask _ hrun, hmore, by simp⟩

/-- Every request was answered by its own program. -/
theorem Errands.answered (h : Errands f p errands e) {c : Errand} (hc : c ∈ errands) :
    (∃ x, c.reply? = some x ∧ Run (f c.request) c.calls (.ok x)) ∨
      c.reply? = none ∧ ∃ halt, Run (f c.request) c.calls (.error halt) := by
  induction h with
  | done | halt => cases hc
  | @ask r next x calls errands e head _ ih =>
    rcases List.mem_cons.1 hc with rfl | hc
    · exact .inl ⟨x, rfl, head⟩
    · exact ih hc
  | stuck head =>
    obtain rfl := List.mem_singleton.1 hc
    exact .inr ⟨rfl, _, head⟩

/-- A request that is left alone is answered by one exchange. -/
theorem Errands.calls_of_call (h : Errands f p errands e) {c : Errand} (hc : c ∈ errands)
    (hf : f c.request = call c.request) : c.calls = [c.exchange] := by
  rcases h.answered hc with ⟨x, hx, hrun⟩ | ⟨-, halt, hrun⟩
  · rw [hf] at hrun
    obtain ⟨y, hcalls, hy⟩ := run_call_iff.1 hrun
    obtain rfl := Except.ok.inj hy
    rw [hcalls, Errand.exchange, hx]
    rfl
  · rw [hf] at hrun
    obtain ⟨y, -, hy⟩ := run_call_iff.1 hrun
    cases hy

/-! ## Moments -/

/-- At a moment of a run, `pre` has happened and `post` is still to come. Then `begun` are the
errands that have been begun, which are over except perhaps for the last one, and `later` are the
others. -/
structure Parted (pre post : List Exchange) (begun later : List Errand) : Prop where
  /-- What is still to come is the rest of the last errand begun, and the later ones. -/
  rest : ∃ rest, begun.flatMap Errand.calls = pre ++ rest ∧
    post = rest ++ later.flatMap Errand.calls
  /-- Some exchange of the last errand begun has happened. -/
  last : ∀ before c, begun = before ++ [c] →
    ∃ part, pre = before.flatMap Errand.calls ++ part ∧ part ≠ []

/-- Every moment falls into an errand, or between two. -/
theorem exists_parted {pre post : List Exchange}
    (h : errands.flatMap Errand.calls = pre ++ post) :
    ∃ begun later, errands = begun ++ later ∧ Parted pre post begun later := by
  induction errands generalizing pre with
  | nil =>
    obtain ⟨rfl, rfl⟩ := List.append_eq_nil_iff.1 h.symm
    exact ⟨[], [], rfl, ⟨[], rfl, rfl⟩, by simp⟩
  | cons c errands ih =>
    by_cases hpre : pre = []
    · subst hpre
      exact ⟨[], c :: errands, rfl, ⟨[], rfl, h.symm⟩, by simp⟩
    rw [List.flatMap_cons] at h
    rcases List.append_eq_append_iff.1 h with ⟨next, rfl, hrest⟩ | ⟨rest, hcalls, rfl⟩
    · -- The first errand is over.
      obtain ⟨begun, later, rfl, ⟨rest, hbegun, hpost⟩, hlast⟩ := ih hrest
      refine ⟨c :: begun, later, rfl, ⟨rest, by simp [hbegun], hpost⟩, ?_⟩
      intro before d hd
      rcases List.cons_eq_append_iff.1 hd with ⟨rfl, -⟩ | ⟨init, rfl, hinit⟩
      · exact ⟨c.calls ++ next, rfl, hpre⟩
      · obtain ⟨part, rfl, hpart⟩ := hlast init d hinit
        exact ⟨part, by simp, hpart⟩
    · -- The moment falls into the first errand.
      refine ⟨[c], errands, rfl, ⟨rest, by simpa using hcalls, rfl⟩, ?_⟩
      intro before d hd
      rcases List.cons_eq_append_iff.1 hd with ⟨rfl, -⟩ | ⟨init, -, hinit⟩
      · exact ⟨pre, rfl, hpre⟩
      · simp at hinit

/-- What is still to come starts with what is left of the last errand begun. -/
theorem Parted.exists_rest {pre post : List Exchange} {begun later : List Errand}
    (h : Parted pre post begun later) :
    ∃ rest, post = rest ++ later.flatMap Errand.calls ∧
      (rest = [] ∨ ∃ c ∈ begun, ∃ part, part ≠ [] ∧ c.calls = part ++ rest) := by
  obtain ⟨rest, hbegun, hpost⟩ := h.rest
  refine ⟨rest, hpost, ?_⟩
  rcases List.eq_nil_or_concat begun with rfl | ⟨before, c, rfl⟩
  · exact .inl (List.append_eq_nil_iff.1 hbegun.symm).2
  · rw [List.concat_eq_append] at *
    obtain ⟨part, rfl, hpart⟩ := h.last before c rfl
    refine .inr ⟨c, by simp, part, hpart, ?_⟩
    rw [List.flatMap_append, List.append_assoc, List.append_cancel_left_eq] at hbegun
    simpa using hbegun

end Program

end PartitionedRollout
