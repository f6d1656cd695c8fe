/-
# PartitionedRollout.Proofs.Rollout.Rehearsal -- traces, and a signal that stays up

A world that answers requests one after the other leaves a trace of exchanges behind, and whatever
its answers preserve holds along the trace.

In a simulated cluster others are at work between any two answers. The signal stays up once it is up
unless one of them withdraws it. `Cluster.KeepsStop` says that nothing due, and no script of a call
or of a gate, is going to do that; every answer preserves it, however much time passes for it.
-/

import PartitionedRollout.Rehearsal.Reply

namespace PartitionedRollout

open Program

/-! ## Traces -/

section

variable {σ α : Type} {answer : σ → (r : Request) → r.Reply × σ} {s s' : σ}

/-- The exchanges are answered one after the other, from a state of the world to another one. -/
def Traced (answer : σ → (r : Request) → r.Reply × σ) : σ → List Exchange → σ → Prop
  | s, [], s' => s' = s
  | s, x :: es, s' => x.reply = (answer s x.request).1 ∧ Traced answer (answer s x.request).2 es s'

namespace Traced

variable {es fs : List Exchange}

/-- A trace may be cut anywhere. -/
theorem append_iff :
    Traced answer s (es ++ fs) s' ↔ ∃ u, Traced answer s es u ∧ Traced answer u fs s' := by
  induction es generalizing s with
  | nil =>
    constructor
    · exact fun h => ⟨s, rfl, h⟩
    · rintro ⟨u, rfl, h⟩
      exact h
  | cons x es ih =>
    constructor
    · rintro ⟨hreply, hrest⟩
      obtain ⟨u, hfirst, hsecond⟩ := ih.1 hrest
      exact ⟨u, ⟨hreply, hfirst⟩, hsecond⟩
    · rintro ⟨u, ⟨hreply, hfirst⟩, hsecond⟩
      exact ⟨hreply, ih.2 ⟨u, hfirst, hsecond⟩⟩

/-- What every answer preserves holds at the end of a trace. -/
theorem preserves {P : σ → Prop} (hP : ∀ s r, P s → P (answer s r).2)
    (h : Traced answer s es s') (hs : P s) : P s' := by
  induction es generalizing s with
  | nil =>
    obtain rfl := h
    exact hs
  | cons x es ih =>
    obtain ⟨-, hrest⟩ := h
    exact ih hrest (hP s x.request hs)

end Traced

end

/-! ## A signal that nobody withdraws -/

/-- The work includes a withdrawal of the shutdown signal. -/
def Work.Withdraws : Work → Prop
  | .act a => .uncancel ∈ a
  | .settle _ _ _ => False

/-- So does what is done before a call. -/
def CallScript.Withdraws : CallScript → Prop
  | .after a => .uncancel ∈ a
  | .fail _ => False

namespace Cluster

/-- The signal is up, and nothing that is still to come withdraws it. -/
structure KeepsStop (c : Cluster) : Prop where
  /-- The signal is up. -/
  stop : c.signal.stop = true
  /-- Nobody withdraws it at some instant. -/
  pending : ∀ e ∈ c.pending, ¬ e.work.Withdraws
  /-- Nor before a read. -/
  gets : ∀ x ∈ c.gets, ¬ x.Withdraws
  /-- Nor before an update. -/
  updates : ∀ x ∈ c.updates, ¬ x.Withdraws
  /-- Nor during a wait for readiness. -/
  readiness : ∀ x ∈ c.readiness, .uncancel ∉ x.action
  /-- Nor during a health check. -/
  health : ∀ x ∈ c.health, .uncancel ∉ x.action

theorem mem_insertEvent {e f : Event} {es : List Event} :
    f ∈ insertEvent e es ↔ f = e ∨ f ∈ es := by
  induction es with
  | nil => simp [insertEvent]
  | cons g es ih =>
    rw [insertEvent]
    split
    · exact List.mem_cons
    · rw [List.mem_cons, ih, List.mem_cons]
      exact or_left_comm

namespace KeepsStop

variable {c : Cluster}

theorem note (h : c.KeepsStop) (text : String) : (c.note text).KeepsStop :=
  { h with }

theorem afterWrite (h : c.KeepsStop) (r : Except StoreError (WorkloadSet × Store)) :
    (c.afterWrite r).KeepsStop := by
  cases r with
  | ok p => exact { h with }
  | error e => exact h

theorem perform (h : c.KeepsStop) {d : Deed} (hd : d ≠ .uncancel) : (c.perform d).KeepsStop := by
  cases d with
  | race => exact h.afterWrite _
  | delete => exact { h with }
  | cancel =>
    refine { h with stop := ?_ }
    show (c.signal.send true).stop = true
    unfold Signal.send
    split
    · rfl
    · exact h.stop
  | uncancel => exact absurd rfl hd
  | dropSender => exact { h with }
  | status edits => exact h.afterWrite _
  | put w => exact h.afterWrite _
  | spec edit =>
    rw [Cluster.perform]
    split
    · exact h
    · exact h.afterWrite _

theorem act (h : c.KeepsStop) {a : Action} (ha : .uncancel ∉ a) : (c.act a).KeepsStop := by
  unfold Cluster.act
  induction a generalizing c with
  | nil => exact h
  | cons d a ih =>
    have hd : d ≠ .uncancel := (List.ne_of_not_mem_cons ha).symm
    exact ih (h.perform hd) (List.not_mem_of_not_mem_cons ha)

theorem happen (h : c.KeepsStop) {work : Work} (hwork : ¬ work.Withdraws) :
    (c.happen work).KeepsStop := by
  cases work with
  | act a => exact (h.note _).act hwork
  | settle ordinal revision ready => exact (h.afterWrite _).note _

/-! ### While time passes -/

theorem advance (h : c.KeepsStop) {deadline : Nat} {mayStop : Bool} {es : List Event}
    (hes : ∀ e ∈ es, ¬ e.work.Withdraws) : (advance deadline mayStop es c).2.KeepsStop := by
  induction es generalizing c with
  | nil => exact { h with pending := hes }
  | cons e rest ih =>
    obtain ⟨he, hrest⟩ := List.forall_mem_cons.1 hes
    rw [Cluster.advance]
    split
    · exact { h with pending := hes }
    have hnext : ({ c with clock := e.due }.happen e.work).KeepsStop :=
      happen (c := { c with clock := e.due }) { h with } he
    dsimp only
    split
    · exact { hnext with pending := hrest }
    · exact ih hnext hrest

theorem waitFor (h : c.KeepsStop) (millis : Nat) (mayStop : Bool) :
    (c.waitFor millis mayStop).2.KeepsStop := by
  unfold Cluster.waitFor Cluster.waitUntil
  split
  · exact h
  split
  · exact h
  · exact h.advance h.pending

theorem pass (h : c.KeepsStop) (takes : Option Nat) : (c.pass takes).KeepsStop := by
  cases takes with
  | none => exact h
  | some n => exact h.waitFor n false

/-! ### While replicas react -/

theorem react (h : c.KeepsStop) (w : WorkloadSet) (r : ReplicaStatus) :
    (react w c r).KeepsStop := by
  unfold Cluster.react
  split
  · exact h
  split
  · exact h
  dsimp only
  split
  · exact h.afterWrite _
  split
  · exact h
  · refine { h with pending := ?_ }
    intro e he
    rcases mem_insertEvent.1 he with rfl | he
    · exact fun hsettle => hsettle
    · exact h.pending e he

theorem reactAll (h : c.KeepsStop) (w : WorkloadSet) : (c.reactAll w).KeepsStop := by
  unfold Cluster.reactAll
  induction w.status.replicas generalizing c with
  | nil => exact h
  | cons r rest ih => exact ih (h.react w r)

/-! ### Answers -/

theorem scripted (h : c.KeepsStop) {script : List CallScript}
    (hscript : ∀ x ∈ script, ¬ x.Withdraws)
    (call : Cluster → Except StoreError WorkloadSet × Cluster)
    (hcall : ∀ c : Cluster, c.KeepsStop → (call c).2.KeepsStop) :
    (c.scripted script call).2.KeepsStop := by
  match script with
  | [] => exact hcall c h
  | .after a :: _ => exact hcall _ (h.act (hscript _ List.mem_cons_self))
  | .fail e :: _ => exact h

theorem get (h : c.KeepsStop) (id : WorkloadId) : (c.get id).2.KeepsStop := by
  have hrest : { c with gets := c.gets.drop 1 }.KeepsStop :=
    { h with gets := fun x hx => h.gets x (List.mem_of_mem_drop hx) }
  exact (hrest.scripted h.gets (fun c => (c.store.get id, c)) fun _ hc => hc).note _

theorem update (h : c.KeepsStop) (w : WorkloadSet) : (c.update w).2.KeepsStop := by
  have hrest : { c with updates := c.updates.drop 1 }.KeepsStop :=
    { h with updates := fun x hx => h.updates x (List.mem_of_mem_drop hx) }
  unfold Cluster.update
  split
  next x d heq =>
    have hd : d.KeepsStop := by
      rw [show d = _ from (congrArg Prod.snd heq).symm]
      refine hrest.scripted h.updates _ ?_
      intro c hc
      split
      · exact { hc with }
      · exact hc
    dsimp only
    split
    · exact (hd.note _).reactAll _
    · exact hd.note _

theorem gate (h : c.KeepsStop) {script : List GateScript}
    (hscript : ∀ x ∈ script, .uncancel ∉ x.action) (text : String) :
    (c.gate script text).2.KeepsStop := by
  refine ((h.pass _).note _).act ?_
  cases script with
  | nil => exact List.not_mem_nil
  | cons x rest => exact hscript x List.mem_cons_self

theorem beginCheck (h : c.KeepsStop) : c.beginCheck.KeepsStop :=
  { h with }

theorem fetch (h : c.KeepsStop) (r : HttpRequest) (timeout : TimeSpan) :
    (c.fetch r timeout).2.KeepsStop := by
  generalize hfetch : c.fetch r timeout = result
  unfold Cluster.fetch at hfetch
  generalize c.network.send r = sent at hfetch
  obtain ⟨code, d⟩ := result
  obtain ⟨reply, network⟩ := sent
  show d.KeepsStop
  have hsent : { c with network := network }.KeepsStop := { h with }
  -- The pair is taken apart, as a comparison of second components would have to carry out the wait.
  rcases reply with _ | code | _ | _ | _ <;> obtain ⟨-, rfl⟩ := Prod.mk.inj hfetch
  case some.hang => exact hsent.waitFor _ _
  all_goals exact hsent

/-- **Nobody withdraws the signal.** Whatever is asked of the cluster, the signal is up afterwards,
and still nothing to come withdraws it. -/
theorem answer (h : c.KeepsStop) (r : Request) : (c.answer r).2.KeepsStop := by
  cases r with
  | get id => exact h.get id
  | update w => exact h.update w
  | transform w => exact h.note _
  | verify p w => exact h.beginCheck.pass _
  | check p w =>
    rw [Cluster.answer]
    dsimp only
    split
    · exact h.beginCheck
    · exact h.beginCheck.waitFor _ _
  | awaitReady =>
    refine gate (c := { c with readiness := c.readiness.drop 1 }) ?_ h.readiness _
    exact { h with readiness := fun x hx => h.readiness x (List.mem_of_mem_drop hx) }
  | probeHealth checkpoint p =>
    refine gate (c := { c with health := c.health.drop 1 }) ?_ h.health _
    exact { h with health := fun x hx => h.health x (List.mem_of_mem_drop hx) }
  | stopping => exact h
  | sleep d => exact h.waitFor _ _
  | now => exact h
  | draw interval factor => exact h
  | fetch request timeout => exact h.fetch request timeout

end KeepsStop

end Cluster

end PartitionedRollout
