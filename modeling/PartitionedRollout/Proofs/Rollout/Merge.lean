/-
# PartitionedRollout.Proofs.Rollout.Merge -- an update with retries loses nobody's writes

An update sends a whole specification, yet it must not undo what others have written since the copy
was read. It does not, because the store accepts it only at the version that was read, and at that
version the entry is still the one that was read. The first attempt is made on a copy that may be
old, every further one on a copy that is read anew; the argument is the same for both.
-/

import PartitionedRollout.Proofs.Rollout.Attempts
import PartitionedRollout.Proofs.Rollout.Interleaving
import PartitionedRollout.Proofs.Store.Version

namespace PartitionedRollout

open Program Store

/-- The second set is the first one with a template and a partition set, as the next version. -/
structure Merged (t : Template) (p : UInt32) (before after : WorkloadSet) : Prop where
  id : after.id = before.id
  status : after.status = before.status
  spec : after.spec = { before.spec with template := t, partition := some p }
  version : after.resourceVersion = before.resourceVersion + 1

/-- The second set asks for the first one with a template and a partition set, at the same
version. -/
structure AsksFor (t : Template) (p : UInt32) (base sent : WorkloadSet) : Prop where
  id : sent.id = base.id
  spec : sent.spec = { base.spec with template := t, partition := some p }
  version : sent.resourceVersion = base.resourceVersion

/-- The last exchange of the program is an update that succeeded. It merged a template and a
partition into the entry that the store held immediately before. -/
def Landed (b : Backend) (t : Template) (p : UInt32) (s : Store) (events : List StoreEvent)
    (s' : Store) (stored : WorkloadSet) : Prop :=
  ∃ front sent back s₁ s₂ before, events = front ++ .own ⟨.update sent, .ok stored⟩ :: back ∧
    owned back = [] ∧ Interleaved b s front s₁ ∧
    Exchange.Served s₁ s₂ ⟨.update sent, .ok stored⟩ ∧ Interleaved b s₂ back s' ∧
    s₁.entry stored.id.key = .ok (some before) ∧ s₂.entry stored.id.key = .ok (some stored) ∧
    Merged t p before stored

/-- No exchange of the program changes the store. -/
def Untouched (b : Backend) (s : Store) (events : List StoreEvent) : Prop :=
  ∀ front x back s₁ s₂, events = front ++ .own x :: back → Interleaved b s front s₁ →
    x.Served s₁ s₂ → s₂ = s₁

variable {b : Backend} {t : Template} {p : UInt32} {s s' : Store} {events more : List StoreEvent}
  {stored : WorkloadSet}

theorem Landed.prepend {u : Store} (h : Landed b t p u more s' stored)
    (hfront : Interleaved b s events u) : Landed b t p s (events ++ more) s' stored := by
  obtain ⟨front, sent, back, s₁, s₂, before, rfl, hback, hbefore, hrest⟩ := h
  exact ⟨events ++ front, sent, back, s₁, s₂, before, by simp, hback, hfront.append hbefore, hrest⟩

/-- **One accepted update.** If the store accepts a candidate that was made from an entry, then that
entry is still there, and the candidate is merged into it. -/
theorem merged_of_update {base sent : WorkloadSet} {n : Nat} {s₁ s₂ : Store}
    (hasks : AsksFor t p base sent) (haged : Aged base n s₁) (hn : n < UInt64.size)
    (hupdate : s₁.update sent = .ok (stored, s₂)) :
    s₁.entry stored.id.key = .ok (some base) ∧ s₂.entry stored.id.key = .ok (some stored) ∧
      Merged t p base stored := by
  obtain ⟨-, current, hentry, hv, rfl, rfl⟩ := update_eq_ok_iff.1 hupdate
  rw [hasks.id] at hentry
  obtain rfl : current = base := haged.eq_of_version hn hentry (hv.trans hasks.version)
  refine ⟨by simpa using hentry, by simp [hasks.id], rfl, rfl, hasks.spec, rfl⟩

/-- Attempts that succeed merge into what was there, however old the first candidate is. -/
theorem Attempts.landed {id : WorkloadId} {interval : TimeSpan} {n : Nat}
    {candidate : WorkloadSet} {es : List Exchange} {r : Except RolloutError WorkloadSet}
    (h : Attempts id p interval (·.withTemplate t) n candidate es r) (hr : r = .ok stored)
    {base : WorkloadSet} {age : Nat} (hasks : AsksFor t p base candidate) (haged : Aged base age s)
    (hs : s.Sound) (hevents : Interleaved b s events s') (hkeeps : ∀ e ∈ events, e.KeepsSets)
    (howned : owned events = es) (hbound : age + events.length < UInt64.size) :
    Landed b t p s events s' stored := by
  induction h generalizing s events base age with
  | reject | rouse | lose => cases hr
  | persist =>
    -- Before the update others may write, and each of their writes makes the entry older.
    obtain rfl := Except.ok.inj hr
    obtain ⟨calls, s₁, s₂, later, rfl, hcalls, hserved, hlater, hback⟩ := hevents.uncons howned
    obtain ⟨m, hm, hat⟩ := hcalls.aged hs (fun c hc => hkeeps (.foreign c) (by simp [hc])) haged
    have hm' : m < UInt64.size := by
      simp only [List.length_append, List.length_map] at hbound
      omega
    obtain ⟨hbefore, hafter, hmerged⟩ := merged_of_update hasks hat hm' hserved
    exact ⟨_, _, later, s₁, s₂, base, rfl, hback, .of_calls hcalls, hserved, hlater, hbefore,
      hafter, hmerged⟩
  | @retry _ _ latest _ _ _ hc _ ih =>
    obtain ⟨front₁, _, _, later₁, rfl, hfront₁, -, -, hlater₁, ho₁⟩ := hevents.advance hs howned
    have hs₁ := hfront₁.sound hs
    obtain ⟨front₂, _, _, later₂, rfl, hfront₂, -, -, hlater₂, ho₂⟩ := hlater₁.advance hs₁ ho₁
    have hs₂ := hfront₂.sound hs₁
    obtain ⟨front₃, u, s₃, later₃, rfl, hfront₃, hu, hserved, hlater₃, ho₃⟩ :=
      hlater₂.advance hs₂ ho₂
    obtain ⟨hread, rfl⟩ : Except.ok latest = u.get id ∧ s₃ = u := hserved
    -- What is read anew is the entry, whatever happened to the first candidate.
    have hentry : s₃.entry latest.id.key = .ok (some latest) := by
      have hfound := get_eq_ok_iff.1 hread.symm
      rwa [hu.filed _ _ hfound]
    have hasks₃ : AsksFor t p latest ((latest.withTemplate t).withPartition p) := ⟨rfl, rfl, rfl⟩
    have hlanded := ih hr hasks₃ (aged_zero hentry) hu hlater₃
      (fun e he => hkeeps e (by simp [he])) ho₃ (by simp only [List.length_append] at hbound; omega)
    exact ((hlanded.prepend hfront₃).prepend hfront₂).prepend hfront₁

/-- Attempts that fail have no update that succeeded. -/
theorem Attempts.no_update {id : WorkloadId} {interval : TimeSpan}
    {change : WorkloadSet → WorkloadSet} {n : Nat} {candidate : WorkloadSet} {es : List Exchange}
    {r : Except RolloutError WorkloadSet} (h : Attempts id p interval change n candidate es r)
    {cause : RolloutError} (hr : r = .error cause) (sent : WorkloadSet) :
    ⟨.update sent, .ok stored⟩ ∉ es := by
  induction h with
  | persist => cases hr
  | reject | rouse | lose => simp
  | retry _ _ ih => simpa using ih hr

theorem untouched_of_no_update (h : ∀ sent stored, ⟨.update sent, .ok stored⟩ ∉ owned events) :
    Untouched b s events := by
  rintro front x back s₁ s₂ rfl - hserved
  rcases hserved.eq_or_update (b := b) with heq | ⟨sent, stored, rfl, -⟩
  · exact heq
  · exact absurd (by simp) (h sent stored)

/-- **No lost update.** A copy is read from a store at any point of its life and changed in its
template and its partition only. Whatever other clients put, update or report meanwhile, an update
with retries merges the template and the partition into the entry that it finds, and one that fails
leaves the store alone. The history must not be longer than a version can count. -/
theorem updateWithRetry_merges {policy : ConflictRetry} {id id₀ : WorkloadId} {t₀ : Template}
    {p₀ : Option UInt32} {calls : List StoreCall} {s₀ : Store} {original : WorkloadSet}
    {e : Ending (Except RolloutError WorkloadSet)} (hreached : Calls b .empty calls s₀)
    (hread : s₀.get id₀ = .ok original) (hevents : Interleaved b s₀ events s')
    (hkeeps : ∀ event ∈ events, event.KeepsSets) (hbound : events.length < UInt64.size)
    (hrun : Run (updateWithRetry policy id
      { original with spec := { original.spec with template := t₀, partition := p₀ } } p
      (·.withTemplate t)) (owned events) e) :
    (∃ stored, e = .ok (.ok stored) ∧ Landed b t p s₀ events s' stored) ∨
      ∃ cause, e = .ok (.error cause) ∧ Untouched b s₀ events := by
  have hs : s₀.Sound := hreached.sound sound_empty
  have hentry : s₀.entry original.id.key = .ok (some original) := by
    have hfound := get_eq_ok_iff.1 hread
    rwa [hs.filed _ _ hfound]
  obtain ⟨r, rfl, hattempts⟩ := run_updateWithin_iff.1 hrun
  cases r with
  | ok stored =>
    refine .inl ⟨stored, rfl, ?_⟩
    refine hattempts.landed rfl ?_ (aged_zero hentry) hs hevents hkeeps rfl (by simpa using hbound)
    -- Whatever the copy had as its template and partition, the candidate replaces both.
    exact ⟨rfl, rfl, rfl⟩
  | error cause =>
    exact .inr ⟨cause, rfl, untouched_of_no_update fun sent stored => hattempts.no_update rfl sent⟩

/-- Another client asks for three replicas while a template is written: the first attempt meets a
conflict, the second one keeps the three replicas. -/
theorem updateWithRetry_keeps_replicas :
    ∃ s events s' stored, (owned events).length = 4 ∧ Interleaved .memory s events s' ∧
      Landed .memory (.ofImage "v2") 0 s events s' stored ∧ stored.spec.replicas = 3 := by
  let original := putOver none (.ofSpec ⟨"db", "a"⟩ 1 (.ofImage "v1"))
  let other := putOver (some original) (.ofSpec ⟨"db", "a"⟩ 3 (.ofImage "v1"))
  let first := (original.withTemplate (.ofImage "v2")).withPartition 0
  let second := (other.withTemplate (.ofImage "v2")).withPartition 0
  let stored := withSpec other second.spec
  let s₀ := Store.empty.write "db/a" original
  let s₁ := s₀.write "db/a" other
  have hentry₀ : s₀.entry "db/a" = .ok (some original) := by simp [s₀]
  have hentry₁ : s₁.entry "db/a" = .ok (some other) := by simp [s₁]
  have hput : s₀.put (.ofSpec ⟨"db", "a"⟩ 3 (.ofImage "v1")) = .ok (other, s₁) :=
    put_eq_ok_iff.2 ⟨by decide, some original, hentry₀, rfl, rfl⟩
  have hconflict : s₁.update first = .error (.conflict "db/a" 1 2) :=
    update_of_version_ne (w := first) (by decide) hentry₁ (by decide)
  have hget : s₁.get ⟨"db", "a"⟩ = .ok other := get_eq_ok_iff.2 hentry₁
  have hupdate : s₁.update second = .ok (stored, s₁.write "db/a" stored) :=
    update_eq_ok_iff.2 ⟨by decide, other, hentry₁, rfl, rfl, rfl⟩
  have hforeign : s₀.perform .memory (.put (.ofSpec ⟨"db", "a"⟩ 3 (.ofImage "v1"))) =
      (.stored other, s₁) :=
    answerWrite_of_ok hput
  have hevents : Interleaved .memory s₀ [
      .foreign ⟨.put (.ofSpec ⟨"db", "a"⟩ 3 (.ofImage "v1")), .stored other⟩,
      .own ⟨.update first, .error (.conflict "db/a" 1 2)⟩, .own ⟨.sleep (.ofMillis 10), false⟩,
      .own ⟨.get ⟨"db", "a"⟩, .ok other⟩, .own ⟨.update second, .ok stored⟩]
      (s₁.write "db/a" stored) :=
    .foreign trivial hforeign <| .own ⟨hconflict, rfl⟩ <| .own rfl <| .own ⟨hget.symm, rfl⟩ <|
      .own hupdate .nil
  have hattempts : Attempts ⟨"db", "a"⟩ 0 (.ofMillis 10) (·.withTemplate (.ofImage "v2")) 5 first
      [⟨.update first, .error (.conflict "db/a" 1 2)⟩, ⟨.sleep (.ofMillis 10), false⟩,
        ⟨.get ⟨"db", "a"⟩, .ok other⟩, ⟨.update second, .ok stored⟩] (.ok stored) :=
    .retry rfl .persist
  have hcreated : Calls .memory .empty [⟨.put (.ofSpec ⟨"db", "a"⟩ 1 (.ofImage "v1")),
      .stored original⟩] s₀ :=
    .cons trivial rfl .nil
  have hread : s₀.get ⟨"db", "a"⟩ = .ok original := get_eq_ok_iff.2 hentry₀
  have hrun : Run (updateWithRetry .standard ⟨"db", "a"⟩ { original with
      spec := { original.spec with template := .ofImage "v1", partition := none } } 0
      (·.withTemplate (.ofImage "v2"))) _ _ :=
    run_of_attempts hattempts
  refine ⟨s₀, _, _, stored, rfl, hevents, ?_, rfl⟩
  rcases updateWithRetry_merges hcreated hread hevents (by simp [StoreEvent.KeepsSets]) (by decide)
    hrun with ⟨_, heq, hlanded⟩ | ⟨_, heq, -⟩
  · obtain rfl := Except.ok.inj (Except.ok.inj heq)
    exact hlanded
  · cases heq

end PartitionedRollout
