/-
# PartitionedRollout.Proofs.Rollout.Admission -- a rollout sends nothing that the store must refuse

A store refuses a specification with a blank image or with a partition beyond the replicas, and an
update of a set that is not there. A rollout of an image avoids all of these: the transform fails on
a blank image before anything is written, the partitions that the walk sets name replicas of the
set, and other clients that only report change neither the image nor the number of replicas. So an
update is stored, or it meets a conflict. `Prepared` is what holds between two calls.

The verifier and the gates may be any programs that update nothing. The run is split into errands,
so that the moves of the rollout itself are kept apart from what its collaborators do.
-/

import PartitionedRollout.Proofs.Rollout.Convergence
import PartitionedRollout.Proofs.Rollout.FinalSpec
import PartitionedRollout.Proofs.Rollout.Interruption
import PartitionedRollout.Proofs.Rollout.Template
import PartitionedRollout.Proofs.Text.Trim

namespace PartitionedRollout

open Program Store

/-! ## Answers to updates -/

/-- If the exchange is an update, it is stored, or it is refused because another client was
faster. -/
def Program.Exchange.Admitted : Exchange → Prop
  | ⟨.update sent, .error e⟩ =>
    ∃ actual, e = .conflict sent.id.key sent.resourceVersion actual ∧
      actual ≠ sent.resourceVersion
  | _ => True

theorem Program.Exchange.admitted_of_not_sent {x : Exchange} (h : x.sent? = none) : x.Admitted := by
  obtain ⟨r, reply⟩ := x
  cases r with
  | update => cases h
  | _ => trivial

/-- What updates nothing leaves the store alone. -/
theorem Program.Exchange.Served.eq_of_not_sent {x : Exchange} {s s' : Store} (h : x.Served s s')
    (hx : x.sent? = none) : s' = s := by
  rcases h.eq_or_update (b := .memory) with rfl | ⟨w, stored, rfl, -⟩
  · rfl
  · cases hx

/-- A specification without faults for a set that is there meets nothing worse than a conflict. -/
theorem Program.Exchange.Served.admitted {x : Exchange} {s s' : Store} (h : x.Served s s')
    (hx : ∀ sent, x.sent? = some sent →
      sent.spec.fault? = none ∧ ∃ current, s.entry sent.id.key = .ok (some current)) :
    x.Admitted := by
  obtain ⟨r, reply⟩ := x
  cases r with
  | update sent =>
    cases reply with
    | ok stored => trivial
    | error e =>
      obtain ⟨hspec, current, hentry⟩ := hx sent rfl
      have hupdate : s.update sent = .error e := h.1
      by_cases hversion : current.resourceVersion = sent.resourceVersion
      · rw [update_eq_ok_iff.2 ⟨hspec, current, hentry, hversion, rfl, rfl⟩] at hupdate
        cases hupdate
      · rw [update_of_version_ne hspec hentry hversion] at hupdate
        exact ⟨_, (Except.error.inj hupdate).symm, hversion⟩
  | _ => trivial

/-! ## What holds between two calls -/

/-- The ordinals that are left name replicas, and every copy asks for as many of them. -/
def Stage.Sized (replicas : UInt32) : Stage → Prop
  | .between count w => count ≤ replicas.toNat ∧ w.spec.replicas = replicas
  | .ready p w _ base =>
    (p < replicas.toNat ∧ w.spec.replicas = replicas) ∧ base.spec.replicas = replicas
  | .cleared p w | .outdated p w | .refused p w _ | .rested p w _ | .polling _ p w
  | .converged p w | .reread p w => p < replicas.toNat ∧ w.spec.replicas = replicas
  | .ended => True

/-- A version of the set is stored, and the stage a rollout is at fits it. The template is only
known to be stored once the ordinal at hand has been updated. -/
structure Prepared (id : WorkloadId) (t : Template) (replicas : UInt32) (s : Stage)
    (store : Store) : Prop where
  stored : ∃ current, store.entry id.key = .ok (some current) ∧
    current.spec.replicas = replicas ∧ (s.HasUpdated → current.spec.template = t)
  carries : s.Carries t id.key
  sized : s.Sized replicas

section

variable {policy : ConflictRetry} {id : WorkloadId} {s u : Stage} {x : Exchange} {t : Template}
  {replicas : UInt32} {key : String} {store store' : Store} {b : Backend}
  {events : List StoreEvent}

theorem Move.sized (h : Move policy id s x u) (hs : s.Sized replicas)
    (hread : ∀ latest, x = ⟨.get id, .ok latest⟩ → latest.spec.replicas = replicas) :
    u.Sized replicas := by
  cases h with
  | allow => exact ⟨hs, hs.2⟩
  | persist | conflict => exact hs.1
  | retry => exact ⟨hs, hread _ rfl⟩
  | reread => exact ⟨hs.1, hread _ rfl⟩
  | skip | finish => exact ⟨Nat.le_of_lt hs.1, hs.2⟩
  | interrupt | unready | reject | rouse | lose | giveUp | cut | wake | vanish | sicken => trivial
  | _ => exact hs

/-- What an update sends asks for the template from a replica of the set on. -/
theorem Move.sends (h : Move policy id s x u) (hs : s.Carries t key) (hsized : s.Sized replicas)
    {sent : WorkloadSet} (hx : x.sent? = some sent) :
    sent.id.key = key ∧ ∃ p < replicas, sent.spec = ⟨replicas, t, some p⟩ := by
  cases h with
  | @persist p _ w base | @conflict p _ w base | @reject p _ w base =>
    obtain rfl := Option.some.inj hx
    obtain ⟨⟨hp, -⟩, hbase⟩ := hsized
    refine ⟨hs.2, .ofNat p, ?_, ?_⟩
    · rw [UInt32.lt_iff_toNat_lt, UInt32.toNat_ofNat_of_lt' (Nat.lt_trans hp replicas.toNat_lt)]
      exact hp
    · rw [← hbase, ← hs.1.1]
      rfl
  | _ => cases hx

namespace Prepared

/-- Clients that only report break nothing. -/
theorem others {calls : List StoreCall} (h : Prepared id t replicas s store)
    (hcalls : Calls b store calls store') (hs : store.Sound)
    (hreports : ∀ c ∈ calls, (StoreEvent.foreign c).OnlyReports id.key) :
    Prepared id t replicas s store' := by
  obtain ⟨current, hentry, hreplicas, htemplate⟩ := h.stored
  obtain ⟨current', hentry', hspec⟩ := hcalls.keeps_spec hs hreports hentry
  exact { h with stored := ⟨current', hentry', hspec ▸ hreplicas, hspec ▸ htemplate⟩ }

/-- What a move sends is admitted. -/
theorem admitted (h : Prepared id t replicas s store) (himage : Text.isBlankText t.image = false)
    (hm : Move policy id s x u) (hserved : x.Served store store') : x.Admitted := by
  refine hserved.admitted ?_
  intro sent hsent
  obtain ⟨hkey, p, hp, hspec⟩ := hm.sends h.carries h.sized hsent
  obtain ⟨current, hentry, -⟩ := h.stored
  exact ⟨hspec ▸ WorkloadSpec.fault?_eq_none himage hp, current, hkey ▸ hentry⟩

/-- No move breaks anything. -/
theorem step (h : Prepared id t replicas s store) (hs : store.Sound) (hm : Move policy id s x u)
    (hserved : x.Served store store') : Prepared id t replicas u store' := by
  obtain ⟨current, hentry, hreplicas, htemplate⟩ := h.stored
  -- What is read is what is stored.
  have hlatest : ∀ latest, x = ⟨.get id, .ok latest⟩ → latest = current := by
    rintro latest rfl
    have hread : store.entry id.key = .ok (some latest) := get_eq_ok_iff.1 hserved.1.symm
    simpa [hentry] using hread.symm
  constructor
  case stored =>
    cases hx : x.persisted? with
    | some p =>
      obtain ⟨sent, stored, rfl, -⟩ := hm.persisted h.carries (by simp [hx])
      obtain ⟨hkey, q, -, hspec⟩ := hm.sends h.carries h.sized rfl
      obtain ⟨-, previous, -, -, rfl, rfl⟩ := update_eq_ok_iff.1 hserved
      refine ⟨withSpec previous sent.spec, by simp [hkey], ?_⟩
      simp [withSpec, hspec]
    | none =>
      obtain rfl : store' = store := by
        rcases hserved.eq_or_update (b := .memory) with rfl | ⟨w, stored, rfl, -⟩
        · rfl
        · cases hm with
          | persist => cases hx
      refine ⟨current, hentry, hreplicas, ?_⟩
      intro hupdated
      exact htemplate ((hm.hasUpdated hupdated).resolve_right (by simp [hx]))
  case carries =>
    refine hm.carries h.carries ?_
    intro latest hread
    obtain rfl := hlatest latest hread
    exact ⟨hs.filed _ _ hentry, htemplate⟩
  case sized =>
    refine hm.sized h.sized ?_
    intro latest hread
    obtain rfl := hlatest latest hread
    exact hreplicas

/-- Nor does what a collaborator does. -/
theorem collaborates {calls more : List Exchange} (h : Prepared id t replicas s store)
    (hs : store.Sound) (hcalls : ∀ y ∈ calls, y.sent? = none)
    (hevents : Interleaved b store events store') (howned : owned events = calls ++ more)
    (hreports : ∀ event ∈ events, event.OnlyReports id.key) :
    ∃ front mid back, events = front ++ back ∧ mid.Sound ∧ Prepared id t replicas s mid ∧
      Interleaved b mid back store' ∧ owned back = more := by
  induction calls generalizing store events with
  | nil => exact ⟨[], store, events, rfl, hs, h, hevents, howned⟩
  | cons y calls ih =>
    obtain ⟨hy, hcalls⟩ := List.forall_mem_cons.1 hcalls
    obtain ⟨foreign, s₁, s₂, later, rfl, hforeign, hserved, hlater, hrest⟩ := hevents.uncons howned
    obtain rfl := hserved.eq_of_not_sent hy
    have hs₁ := hforeign.sound hs
    have h₁ := h.others hforeign hs fun c hc =>
      hreports _ (List.mem_append_left _ (List.mem_map_of_mem hc))
    obtain ⟨front, mid, back, rfl, hmid⟩ := ih h₁ hs₁ hcalls hlater hrest fun event hevent =>
      hreports event (List.mem_append_right _ (List.mem_cons_of_mem _ hevent))
    exact ⟨foreign.map .foreign ++ .own y :: front, mid, back, by simp, hmid⟩

end Prepared

/-- The errand is one call of the rollout itself, or it is for a collaborator that updates
nothing. -/
def Program.Errand.Harmless (c : Errand) : Prop :=
  c.request.isDirect = true ∧ c.calls = [c.exchange] ∨
    c.request.isDirect = false ∧ ∀ y ∈ c.calls, y.sent? = none

/-- A question to a collaborator is not answered by the store. -/
theorem Program.Exchange.served_of_not_direct (hx : x.request.isDirect = false) (store : Store) :
    x.Served store store := by
  obtain ⟨r, reply⟩ := x
  cases r with
  | verify | check | awaitReady | probeHealth => rfl
  | _ => cases hx

/-- **Every update of a rollout is admitted**, from any stage on, whatever its collaborators do
meanwhile. -/
theorem Moves.admitted {errands : List Errand}
    (hm : Moves policy id s (errands.map Errand.exchange) u)
    (himage : Text.isBlankText t.image = false) (hharmless : ∀ c ∈ errands, c.Harmless)
    (h : Prepared id t replicas s store) (hs : store.Sound)
    (hevents : Interleaved b store events store')
    (howned : owned events = errands.flatMap Errand.calls)
    (hreports : ∀ event ∈ events, event.OnlyReports id.key) :
    ∀ x ∈ errands.flatMap Errand.calls, x.Admitted := by
  induction errands generalizing s store events with
  | nil => simp
  | cons c errands ih =>
    rw [List.map_cons] at hm
    obtain ⟨r, hmove, hrest⟩ := Moves.cons_iff.1 hm
    obtain ⟨hc, hharmless⟩ := List.forall_mem_cons.1 hharmless
    rw [List.flatMap_cons] at howned ⊢
    rw [List.forall_mem_append]
    rcases hc with ⟨-, hcalls⟩ | ⟨hcollaborator, hcalls⟩
    · -- A call of the rollout itself: the others report, and then it is served.
      rw [hcalls] at howned ⊢
      obtain ⟨foreign, s₁, s₂, later, rfl, hforeign, hserved, hlater, hmore⟩ :=
        hevents.uncons howned
      have hs₁ := hforeign.sound hs
      have h₁ := h.others hforeign hs fun event hevent =>
        hreports _ (List.mem_append_left _ (List.mem_map_of_mem hevent))
      refine ⟨by simpa using h₁.admitted himage hmove hserved, ?_⟩
      exact ih hrest hharmless (h₁.step hs₁ hmove hserved) (hserved.sound hs₁) hlater hmore
        fun event hevent =>
          hreports event (List.mem_append_right _ (List.mem_cons_of_mem _ hevent))
    · refine ⟨fun y hy => Exchange.admitted_of_not_sent (hcalls y hy), ?_⟩
      obtain ⟨front, mid, back, rfl, hmid, hprepared, hback, hmore⟩ :=
        h.collaborates hs hcalls hevents howned hreports
      have hserved : c.exchange.Served mid mid := Exchange.served_of_not_direct hcollaborator mid
      exact ih hrest hharmless (hprepared.step hmid hmove hserved) hmid hback hmore
        fun event hevent => hreports event (List.mem_append_right _ hevent)

end

/-! ## Rolling out an image -/

/-- Neither the verifier nor the gates update a set. -/
def Gates.UpdateNothing (g : Gates) (v : Verifier) (id : WorkloadId) : Prop :=
  ∀ r, r.isDirect = false → ∀ es e, Run (g.answers v id r) es e → ∀ x ∈ es, x.sent? = none

/-- The gates of this library and the verifier that compares revisions only look on. -/
theorem ClusterGates.updateNothing (c : ClusterGates) (id : WorkloadId) :
    c.gates.UpdateNothing .revision id := by
  intro r hr es e hrun x hx
  have hlooks := (watchful_answers hr es e hrun).calls x hx
  obtain ⟨request, reply⟩ := x
  cases request with
  | update => exact hlooks.elim
  | _ => rfl

section

variable {g : Gates} {v : Verifier} {retry : ConflictRetry} {jitter : Bool} {rounds : Nat}
  {id : WorkloadId} {image : String}

/-- The set with an image. -/
def WorkloadSet.withImage (w : WorkloadSet) (image : String) : WorkloadSet :=
  w.withTemplate { w.spec.template with image := image }

/-- A run that sets an image reads the set, and fails at once if the image is blank. -/
theorem run_rollOutSuite_image {strategy : Strategy} {es : List Exchange} {e : Ending Outcome}
    (h : Run (rollOutSuite g ⟨imageTransform image, strategy⟩ id) es e) :
    (∃ cause, es = [⟨.get id, .error cause⟩]) ∨
      (∃ current cause, es = [⟨.get id, .ok current⟩] ∧ Text.isBlankText image = true ∧
        e = .ok (.failed false (.transform id cause))) ∨
      ∃ current rest ending, es = ⟨.get id, .ok current⟩ :: rest ∧
        Text.isBlankText image = false ∧
        Run (strategy.rollOut g id (current.withImage image)) rest ending ∧
        e = ending.map fun walked => walked.2.inStrategy id := by
  rw [rollOutSuite, run_call_bind_iff] at h
  obtain ⟨reply, rest, rfl, h⟩ := h
  cases reply with
  | error cause =>
    obtain ⟨rfl, -⟩ := run_done_iff.1 h
    exact .inl ⟨cause, rfl⟩
  | ok current =>
    simp only [imageTransform, setImage, pure_eq_done, done_bind] at h
    cases hblank : Text.isBlankText image with
    | true =>
      simp only [hblank, if_true] at h
      obtain ⟨rfl, rfl⟩ := run_done_iff.1 h
      exact .inr (.inl ⟨current, _, rfl, rfl, rfl⟩)
    | false =>
      simp only [hblank, Bool.false_eq_true, if_false] at h
      refine .inr (.inr ⟨current, ?_⟩)
      rw [run_bind_iff] at h
      rcases h with ⟨⟨latest, skipped, result⟩, es₁, es₂, rfl, hr, h⟩ | ⟨halt, rfl, hr⟩
      · cases result <;>
        · obtain ⟨rfl, rfl⟩ := run_done_iff.1 h
          exact ⟨es₁, _, by simp, rfl, hr, rfl⟩
      · exact ⟨rest, _, rfl, rfl, hr, rfl⟩

/-- A run of a rollout falls into harmless errands, which are moves. -/
theorem exists_harmless_errands (hg : g.UpdateNothing v id) {working : WorkloadSet}
    {es : List Exchange} {e : Ending (WorkloadSet × Outcome)}
    (h : Run ((⟨v, retry, jitter, rounds⟩ : Strategy).rollOut g id working) es e) :
    ∃ (errands : List Errand) (u : Stage), es = errands.flatMap Errand.calls ∧
      (∀ c ∈ errands, c.Harmless) ∧
      Moves retry id (.between working.spec.replicas.toNat working) (errands.map Errand.exchange)
        u := by
  rw [Strategy.rollOut, ← handle_walk g v id retry jitter rounds, run_handle_iff_errands] at h
  obtain ⟨errands, herrands, rfl⟩ := h
  obtain ⟨more, e', hrun, -⟩ := herrands.run
  obtain ⟨_, hm, -⟩ := run_rollOut hrun
  obtain ⟨u, hm, -⟩ := Moves.append_iff.1 hm
  refine ⟨errands, u, rfl, ?_, hm⟩
  intro c hc
  cases hdirect : c.request.isDirect with
  | true =>
    exact .inl ⟨hdirect, herrands.calls_of_call hc (g.transparent_answers v id _ hdirect)⟩
  | false =>
    refine .inr ⟨hdirect, ?_⟩
    rcases herrands.answered hc with ⟨_, -, hanswer⟩ | ⟨-, _, hanswer⟩ <;>
      exact hg _ hdirect _ _ hanswer

theorem isBlankText_iff_trim : Text.isBlankText image = true ↔ Text.trim image.toList = [] := by
  constructor
  · intro h
    exact Text.trim_blanks (List.all_eq_true.1 h)
  · intro h
    obtain ⟨-, front, back, htext, hfront, hback⟩ := Text.trim_eq_iff.1 h
    rw [Text.isBlankText, htext, List.append_nil, List.all_append, Bool.and_eq_true]
    exact ⟨List.all_eq_true.2 hfront, List.all_eq_true.2 hback⟩

/-- **A rollout of an image sends nothing that the store must refuse.** The set is there, the other
clients only report on it, and the verifier and the gates update nothing. Then the rollout fails in
the transform exactly if nothing is left of the image when it is trimmed, and it has only read the
set in that case. In every case each of its updates is stored or meets a conflict. -/
theorem rollOutSuite_never_refused {b : Backend} {s s' : Store} {start : WorkloadSet}
    {events : List StoreEvent} {e : Ending Outcome} (hs : s.Sound) (hstart : s.get id = .ok start)
    (hg : g.UpdateNothing v id) (hevents : Interleaved b s events s')
    (hreports : ∀ event ∈ events, event.OnlyReports id.key)
    (h : Run (rollOutSuite g ⟨imageTransform image, ⟨v, retry, jitter, rounds⟩⟩ id)
      (owned events) e) :
    ((∃ skipped cause, e = .ok (.failed skipped (.transform id cause))) ↔
        Text.trim image.toList = []) ∧
      (Text.trim image.toList = [] → ∃ current, owned events = [⟨.get id, .ok current⟩]) ∧
      ∀ x ∈ owned events, x.Admitted := by
  rw [← isBlankText_iff_trim]
  rcases run_rollOutSuite_image h with ⟨cause, hes⟩ | ⟨current, cause, hes, hblank, rfl⟩ |
    ⟨current, rest, ending, hes, himage, hroll, rfl⟩
  · -- The set is there when it is read.
    obtain ⟨before, s₁, _, later, rfl, hbefore, hread, -⟩ := hevents.uncons hes
    obtain ⟨current, hentry, -⟩ := hbefore.keeps_spec hs
      (fun c hc => hreports _ (List.mem_append_left _ (List.mem_map_of_mem hc)))
      (get_eq_ok_iff.1 hstart)
    have hfound := hread.1.trans (get_eq_ok_iff.2 hentry)
    cases hfound
  · refine ⟨⟨fun _ => hblank, fun _ => ⟨_, _, rfl⟩⟩, fun _ => ⟨current, hes⟩, ?_⟩
    rw [hes]
    simp [Exchange.Admitted]
  · refine ⟨⟨?_, ?_⟩, ?_, ?_⟩
    · rintro ⟨skipped, cause, hfailed⟩
      obtain ⟨_, source, -, hsource⟩ := map_inStrategy_eq_failed.1 hfailed
      cases hsource
    · simp [himage]
    · simp [himage]
    · obtain ⟨before, _, s₁, later, rfl, hbefore, ⟨hread, rfl⟩, hlater, rfl⟩ :=
        hevents.uncons hes
      have hs₁ := hbefore.sound hs
      have hentry := get_eq_ok_iff.1 hread.symm
      obtain ⟨errands, u, howned, hharmless, hm⟩ := exists_harmless_errands hg hroll
      have hkey : (current.withImage image).id.key = id.key := hs₁.filed _ current hentry
      have hprepared : Prepared id (current.withImage image).spec.template current.spec.replicas
          (.between current.spec.replicas.toNat (current.withImage image)) s₁ :=
        ⟨⟨current, hentry, rfl, False.elim⟩, ⟨rfl, hkey⟩, Nat.le_refl _, rfl⟩
      rw [hes, List.forall_mem_cons, howned]
      exact ⟨trivial, hm.admitted himage hharmless hprepared hs₁ hlater howned fun event hevent =>
        hreports event (List.mem_append_right _ (List.mem_cons_of_mem _ hevent))⟩

end

/-! ## A rollout among reports -/

namespace Reporting

/-- The set that is rolled out. -/
def id : WorkloadId :=
  ⟨"db", "a"⟩

/-- The gates of this library, for that set. -/
def gates : ClusterGates :=
  ⟨.standard, 3, .standard, id, .standard, id⟩

/-- One replica, of which nothing has been reported. -/
def start : WorkloadSet :=
  putOver none (.ofSpec id 1 (.ofImage "v1"))

/-- The update on the set as it was read first. -/
def sentFirst : WorkloadSet :=
  (start.withImage "v2").withPartition 0

/-- The report that the replica serves. -/
def report (s : WorkloadStatus) : WorkloadStatus :=
  ⟨s.observedGeneration, [⟨0, "old", true, none⟩]⟩

/-- The set with the report. -/
def reported : WorkloadSet :=
  withStatus start report

/-- The update on that. -/
def sentAgain : WorkloadSet :=
  candidate 0 (start.withImage "v2") reported

/-- The set with the update. -/
def updated : WorkloadSet :=
  withSpec reported sentAgain.spec

/-- The whole history: the replica reports while its readiness is awaited, and the rollout is told
to stop after the second update. -/
def history : List StoreEvent :=
  [.own ⟨.get id, .ok start⟩, .own ⟨.stopping, false⟩, .own ⟨.get id, .ok start⟩,
    .own ⟨.now, .zero⟩, .foreign ⟨.updateStatus id report, .stored reported⟩,
    .own ⟨.get id, .ok reported⟩,
    .own ⟨.update sentFirst, .error (.conflict id.key 1 2)⟩,
    .own ⟨.sleep ConflictRetry.standard.interval, false⟩, .own ⟨.get id, .ok reported⟩,
    .own ⟨.update sentAgain, .ok updated⟩, .own ⟨.now, .zero⟩, .own ⟨.stopping, true⟩]

/-- The store before the rollout. -/
def before : Store :=
  Store.empty.write id.key start

/-- The store after it. -/
def after : Store :=
  (before.write id.key reported).write id.key updated

theorem sound_before : before.Sound :=
  sound_empty.write rfl

theorem get_before : before.get id = .ok start :=
  get_eq_ok_iff.2 (by simp [before])

theorem interleaved_history : Interleaved .memory before history after := by
  have hstart : before.entry id.key = .ok (some start) := by simp [before]
  have hreported : (before.write id.key reported).entry id.key = .ok (some reported) := by simp
  have hreport : before.perform .memory (.updateStatus id report) =
      (.stored reported, before.write id.key reported) :=
    answerWrite_of_ok (updateStatus_eq_ok_iff.2 ⟨start, hstart, rfl, rfl⟩)
  have hconflict : (before.write id.key reported).update sentFirst =
      .error (.conflict id.key 1 2) :=
    update_of_version_ne (w := sentFirst) (by decide) hreported (by decide)
  have hreread : (before.write id.key reported).get id = .ok reported := get_eq_ok_iff.2 hreported
  have hupdate : (before.write id.key reported).update sentAgain = .ok (updated, after) :=
    update_eq_ok_iff.2 ⟨by decide, reported, hreported, rfl, rfl, rfl⟩
  exact .own ⟨get_before.symm, rfl⟩ <| .own rfl <| .own ⟨get_before.symm, rfl⟩ <| .own rfl <|
    .foreign trivial hreport <| .own ⟨hreread.symm, rfl⟩ <| .own ⟨hconflict, rfl⟩ <|
    .own rfl <| .own ⟨hreread.symm, rfl⟩ <| .own hupdate <| .own rfl <| .own rfl .nil

theorem run_history :
    Run (rollOutSuite gates.gates ⟨imageTransform "v2", ⟨.revision, .standard, false, 3⟩⟩ id)
      (owned history) (.ok (.failed false (.strategy id (.cancelled 0)))) := by
  repeat apply Run.ask
  exact .done _

end Reporting

/-- The first update meets a conflict, the second one is stored. -/
theorem rollOutSuite_never_refused_reporting :
    Interleaved .memory Reporting.before Reporting.history Reporting.after ∧
      (∀ event ∈ Reporting.history, event.OnlyReports Reporting.id.key) ∧
      ∀ x ∈ owned Reporting.history, x.Admitted := by
  have hreports : ∀ event ∈ Reporting.history, event.OnlyReports Reporting.id.key := by
    simp [Reporting.history, StoreEvent.OnlyReports]
  refine ⟨Reporting.interleaved_history, hreports, ?_⟩
  exact (rollOutSuite_never_refused Reporting.sound_before Reporting.get_before
    (Reporting.gates.updateNothing Reporting.id) Reporting.interleaved_history hreports
    Reporting.run_history).2.2

end PartitionedRollout
