/-
# PartitionedRollout.Proofs.Rollout.Interleaving -- a program among other clients of a store

A program reads and updates a store while other clients call it as well. A history is a list of
events, each an exchange of the program or a call of somebody else, and it is `Interleaved` between
two stores if every answer in it is the one that the store gives at that point. Exchanges about
anything but the store leave it alone and may be answered in any way.
-/

import PartitionedRollout.Proofs.Store.Calls
import PartitionedRollout.Rollout.Program

namespace PartitionedRollout

open Program Store

/-- What happens to a store while a program runs. -/
inductive StoreEvent where
  /-- The program makes a request and gets a reply. -/
  | own (x : Exchange)
  /-- Another client calls the store. -/
  | foreign (c : StoreCall)

namespace StoreEvent

/-- The exchange of the program, if it is one. -/
def exchange? : StoreEvent → Option Exchange
  | own x => some x
  | foreign _ => none

/-- Nobody else removes a set. -/
def KeepsSets : StoreEvent → Prop
  | own _ => True
  | foreign c => ∀ id, c.operation ≠ .delete id

end StoreEvent

/-- The exchanges of the program in a history. -/
def owned (events : List StoreEvent) : List Exchange :=
  events.filterMap StoreEvent.exchange?

/-- The store answers an exchange of the program and is left as the second one. -/
def Program.Exchange.Served (s s' : Store) : Exchange → Prop
  | ⟨.get id, reply⟩ => reply = s.get id ∧ s' = s
  | ⟨.update w, .ok stored⟩ => s.update w = .ok (stored, s')
  | ⟨.update w, .error e⟩ => s.update w = .error e ∧ s' = s
  | _ => s' = s

/-- A history between two stores. -/
inductive Interleaved (b : Backend) : Store → List StoreEvent → Store → Prop where
  | nil {s : Store} : Interleaved b s [] s
  | own {s t u : Store} {x : Exchange} {events : List StoreEvent} (head : x.Served s t)
      (tail : Interleaved b t events u) : Interleaved b s (.own x :: events) u
  | foreign {s t u : Store} {op : StoreOperation} {a : StoreAnswer} {events : List StoreEvent}
      (client : op.OfClient) (head : s.perform b op = (a, t)) (tail : Interleaved b t events u) :
      Interleaved b s (.foreign ⟨op, a⟩ :: events) u

variable {b : Backend} {s s' t : Store} {events more : List StoreEvent} {x : Exchange}
  {es : List Exchange}

@[simp]
theorem owned_nil : owned [] = [] :=
  rfl

@[simp]
theorem owned_own (x : Exchange) (events : List StoreEvent) :
    owned (.own x :: events) = x :: owned events :=
  rfl

@[simp]
theorem owned_foreign (c : StoreCall) (events : List StoreEvent) :
    owned (.foreign c :: events) = owned events :=
  rfl

@[simp]
theorem owned_append (events more : List StoreEvent) :
    owned (events ++ more) = owned events ++ owned more := by
  simp [owned]

/-- The program changes the store only by an update that succeeds, which is then a call like that of
any other client. -/
theorem Program.Exchange.Served.eq_or_update (h : x.Served s s') :
    s' = s ∨ ∃ w stored, x = ⟨.update w, .ok stored⟩ ∧
      s.perform b (.update w) = (.stored stored, s') := by
  obtain ⟨r, reply⟩ := x
  cases r with
  | get id => exact .inl h.2
  | update w =>
    cases reply with
    | ok stored =>
      exact .inr ⟨w, stored, rfl, answerWrite_of_ok h⟩
    | error e => exact .inl h.2
  | _ => exact .inl h

theorem Program.Exchange.Served.sound (h : x.Served s s') (hs : s.Sound) : s'.Sound := by
  rcases h.eq_or_update (b := .memory) with rfl | ⟨w, stored, rfl, hperform⟩
  · exact hs
  · have hclient : (StoreOperation.update w).OfClient := trivial
    exact sound_perform hs hclient hperform

namespace Interleaved

theorem append (h : Interleaved b s events t) (h' : Interleaved b t more s') :
    Interleaved b s (events ++ more) s' := by
  induction h with
  | nil => exact h'
  | own head _ ih => exact .own head (ih h')
  | foreign client head _ ih => exact .foreign client head (ih h')

theorem sound (h : Interleaved b s events s') (hs : s.Sound) : s'.Sound := by
  induction h with
  | nil => exact hs
  | own head _ ih => exact ih (head.sound hs)
  | foreign client head _ ih => exact ih (sound_perform hs client head)

/-- The calls of other clients in a row are a history. -/
theorem of_calls {calls : List StoreCall} (h : Calls b s calls s') :
    Interleaved b s (calls.map .foreign) s' := by
  induction h with
  | nil => exact .nil
  | cons client head _ ih => exact .foreign client head ih

/-- Up to the next exchange of the program there are only calls of other clients. -/
theorem uncons (h : Interleaved b s events s') (hx : owned events = x :: es) :
    ∃ calls s₁ s₂ later, events = calls.map .foreign ++ .own x :: later ∧ Calls b s calls s₁ ∧
      x.Served s₁ s₂ ∧ Interleaved b s₂ later s' ∧ owned later = es := by
  induction h with
  | nil => cases hx
  | @own s t _ y events head tail =>
    obtain ⟨rfl, rfl⟩ := List.cons.inj hx
    exact ⟨[], s, t, events, rfl, .nil, head, tail, rfl⟩
  | @foreign s t _ op a events client head _ ih =>
    -- A call of another client in front joins those before the exchange.
    obtain ⟨calls, s₁, s₂, later, rfl, hcalls, hserved, hlater, hes⟩ := ih hx
    exact ⟨⟨op, a⟩ :: calls, s₁, s₂, later, rfl, .cons client head hcalls, hserved, hlater, hes⟩

/-- Without an exchange of the program there are only calls of other clients. -/
theorem calls_of_idle (h : Interleaved b s events s') (hidle : owned events = []) :
    ∃ calls, events = calls.map .foreign ∧ Calls b s calls s' := by
  induction h with
  | nil => exact ⟨[], rfl, .nil⟩
  | own => cases hidle
  | @foreign _ _ _ op a _ client head _ ih =>
    obtain ⟨calls, rfl, hcalls⟩ := ih hidle
    exact ⟨⟨op, a⟩ :: calls, rfl, .cons client head hcalls⟩

/-- A history goes on from a store that has just answered the next exchange of the program. -/
theorem advance (h : Interleaved b s events s') (hs : s.Sound) (hx : owned events = x :: es) :
    ∃ front s₁ s₂ later, events = front ++ later ∧ Interleaved b s front s₂ ∧ s₁.Sound ∧
      x.Served s₁ s₂ ∧ Interleaved b s₂ later s' ∧ owned later = es := by
  obtain ⟨calls, s₁, s₂, later, rfl, hcalls, hserved, hlater, hes⟩ := h.uncons hx
  refine ⟨calls.map .foreign ++ [.own x], s₁, s₂, later, by simp, ?_, hcalls.sound hs, hserved,
    hlater, hes⟩
  exact (of_calls hcalls).append (.own hserved .nil)

end Interleaved

end PartitionedRollout
