/-
# PartitionedRollout.Proofs.Command.Stores -- commands on a store in a file

A command opens the store of its configuration, and it may write it back. Of the host only this
matters: what is in the file is what the command gets, and what it writes is in the file afterwards.
`Host.Keeps` says so of a host and of a path, and the two steps of every command follow from it. A
file tree keeps a store under a plain name in its working directory; a file that is missing counts
as a store without entries, as opening it makes one.
-/

import PartitionedRollout.Command.FileTree

namespace PartitionedRollout.Command

/-! ## Steps of a command -/

section

variable {σ α β : Type} {t t' : σ}

theorem run_bind_ok {x : Doing (StateM σ) α} {f : α → Doing (StateM σ) β} {a : α}
    (hx : x.run t = (.ok a, t')) : (x >>= f).run t = (f a).run t' := by
  rw [ExceptT.run_bind]
  show StateT.bind x.run _ t = _
  simp only [StateT.bind, hx]
  rfl

/-- A step of the host comes back with its answer. -/
theorem run_liftM_bind {step : StateM σ α} {f : α → Doing (StateM σ) β} {a : α}
    (hstep : step t = (a, t')) :
    ((liftM step : Doing (StateM σ) α) >>= f).run t = (f a).run t' := by
  refine run_bind_ok ?_
  show StateT.map Except.ok step t = _
  simp only [StateT.map, hstep]
  rfl

theorem run_explain {context : String} {step : StateM σ (Except String α)} {a : α}
    (hstep : step t = (.ok a, t')) : (explain context step).run t = (.ok a, t') := by
  rw [explain, run_liftM_bind hstep]
  rfl

end

/-! ## Hosts that keep a store -/

/-- A host keeps a store in the file at a path. `contents` is the store that opening the file
gives, unless it cannot be opened. -/
structure Host.Keeps {σ : Type} (h : Host (StateM σ)) (path : String)
    (contents : σ → Option Store) : Prop where
  /-- The directory of the file is there, and asking for it changes nothing. -/
  directory : ∀ {t s}, contents t = some s → ∀ d, parentOf? path = some d → d.isEmpty = false →
    ∃ t', h.createDirectories d t = (.ok (), t') ∧ contents t' = some s
  /-- Opening the store gives what is in the file. -/
  opens : ∀ {t s}, contents t = some s →
    ∃ t', h.openStore path t = (.ok s, t') ∧ contents t' = some s
  /-- What is written is in the file. -/
  saves : ∀ {t s}, contents t = some s → ∀ s',
    ∃ t', h.saveStore path s' t = (.ok (), t') ∧ contents t' = some s'

namespace Host.Keeps

variable {σ : Type} {h : Host (StateM σ)} {path : String} {contents : σ → Option Store} {t : σ}
  {s : Store}

/-- A command gets the store that is in the file. -/
theorem run_openStore (hh : h.Keeps path contents) (ht : contents t = some s) :
    ∃ t', (Command.openStore h path).run t = (.ok s, t') ∧ contents t' = some s := by
  cases hparent : parentOf? path with
  | none =>
    obtain ⟨t', hopens, ht'⟩ := hh.opens ht
    refine ⟨t', ?_, ht'⟩
    simp only [Command.openStore, hparent]
    exact run_liftM_bind hopens
  | some d =>
    cases hempty : d.isEmpty with
    | true =>
      obtain ⟨t', hopens, ht'⟩ := hh.opens ht
      refine ⟨t', ?_, ht'⟩
      simp only [Command.openStore, hparent, Option.filter, hempty]
      exact run_liftM_bind hopens
    | false =>
      obtain ⟨t₁, hcreate, ht₁⟩ := hh.directory ht d hparent hempty
      obtain ⟨t', hopens, ht'⟩ := hh.opens ht₁
      refine ⟨t', ?_, ht'⟩
      simp only [Command.openStore, hparent, Option.filter, hempty]
      exact (run_bind_ok (run_explain hcreate)).trans (run_liftM_bind hopens)

/-- What a command writes is in the file. -/
theorem run_saveStore (hh : h.Keeps path contents) (ht : contents t = some s) (s' : Store) :
    ∃ t', (Command.saveStore h path s').run t = (.ok (), t') ∧ contents t' = some s' := by
  obtain ⟨t', hsave, ht'⟩ := hh.saves ht s'
  exact ⟨t', run_liftM_bind hsave, ht'⟩

end Host.Keeps

/-! ## File trees -/

namespace FileTree

/-- The store in the file with a name in the working directory. One without entries is made where
there is no file. -/
def storeIn (name : String) (t : FileTree) : Option Store :=
  match t.nodes.get? (key (home ++ [name])) with
  | none => some .empty
  | some (.store s) => some s
  | _ => none

/-- A path that is a name in the working directory, and nothing else. -/
structure PlainName (name : String) : Prop where
  /-- It lies in no other directory. -/
  parent : ∀ d, parentOf? name = some d → d.isEmpty = true
  /-- It leads to the name. -/
  leads : ∀ t : FileTree, t.locate name = .ok (.within home name false)
  /-- It is not too long for a name. -/
  short : name.utf8ByteSize ≤ maxNameSize

variable {name : String} {t : FileTree} {s : Store}

theorem target_of_storeIn (hname : PlainName name) (ht : t.storeIn name = some s) :
    t.target name = .ok (none, home ++ [name]) ∧ s = .empty ∨
      t.target name = .ok (some (.store s), home ++ [name]) := by
  unfold storeIn at ht
  cases hnode : t.nodes.get? (key (home ++ [name])) with
  | none =>
    have hlook : t.lookUp home name = .error .notFound := by
      rw [lookUp, if_neg (Nat.not_lt.2 hname.short), hnode]
    rw [hnode] at ht
    refine .inl ⟨?_, (Option.some.inj ht).symm⟩
    simp only [target, hname.leads, bind, Except.bind, hlook]
    rfl
  | some n =>
    have hlook : t.lookUp home name = .ok n := by
      rw [lookUp, if_neg (Nat.not_lt.2 hname.short), hnode]
    rw [hnode] at ht
    cases n with
    | store s' =>
      obtain rfl := Option.some.inj ht
      refine .inr ?_
      simp only [target, hname.leads, bind, Except.bind, hlook]
      rfl
    | directory | text => cases ht

@[simp]
theorem storeIn_put (t : FileTree) (name : String) (s : Store) :
    (t.put (home ++ [name]) (.store s)).storeIn name = some s := by
  simp [storeIn, put]

/-- A file tree keeps a store under every plain name. -/
theorem host_keeps (hname : PlainName name) : host.Keeps name (storeIn name) where
  directory _ d hd hempty := absurd (hname.parent d hd) (by simp [hempty])
  opens := by
    intro t s ht
    rcases target_of_storeIn hname ht with ⟨htarget, rfl⟩ | htarget
    · refine ⟨t.put (home ++ [name]) (.store .empty), ?_, storeIn_put t name .empty⟩
      simp only [host, openStore, htarget]
      rfl
    · refine ⟨t, ?_, ht⟩
      simp only [host, openStore, htarget]
      rfl
  saves := by
    intro t s ht s'
    refine ⟨t.put (home ++ [name]) (.store s'), ?_, storeIn_put t name s'⟩
    rcases target_of_storeIn hname ht with ⟨htarget, -⟩ | htarget <;>
    · simp only [host, saveStore, htarget]
      rfl

theorem plainName_state : PlainName "state.redb" where
  parent := by decide
  leads t := rfl
  short := by decide

end FileTree

end PartitionedRollout.Command
