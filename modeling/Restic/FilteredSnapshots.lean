import Mathlib.Logic.Relation
import Restic.ExtendedAttributes

/-!
# Streaming the filtered snapshots

`FindFilteredSnapshots` hands its caller an unbuffered channel and fills it from a goroutine:
`restic.MemorizeList`, then `FindAll`, whose callback warns about a snapshot that could not be
loaded and otherwise waits in a `select` until the caller takes the snapshot or the context is
cancelled. The goroutine, the caller's `range` over the channel and the cancellation interleave
freely, and `FindAll` is not part of this repository, so it may call the callback with any
results, in any number, and return any error: `Step` has one event for each of these.

Over every run (`Reachable`), `Inv` holds (`reachable_inv`). The caller receives, in order and
each once, snapshots that `FindAll` reported without an error, and until the context is
cancelled it receives every one of them (`reachable_received`). The calls return once each, in
order: a call that passed an error returns nil, and one that passed a snapshot returns
`ctx.Err()` or nil, the first only once the context is cancelled (`reachable_returned`). Each
failed snapshot gets its warning, in order, and the only other warning is the last one
(`reachable_warnings`). A cancellation does not withdraw a snapshot
already offered: the `select` may still hand it over.
-/

namespace Restic

namespace FilteredSnapshots

/-- Where the goroutine is: in `restic.MemorizeList`, in `FindAll` between two calls of the
callback, in the callback's `select` offering a snapshot on the channel, or returned with
`defer close(out)` run. -/
inductive Phase (S : Type)
  | loading
  | finding
  | offering (sn : S)
  | closed
  deriving DecidableEq, Repr

/-- One call `FindAll` made of the callback: the id, the snapshot and the error it passed. -/
structure Call (S : Type) where
  id : String
  sn : S
  err : Option Error
  deriving DecidableEq, Repr

/-- The goroutine, the channel's caller and the context. `calls` is every call of the callback
so far, `returned` what each call that has returned gave back to `FindAll`, `received` what the
caller's `range` has taken from the channel, and `warnings` the `Warnf` output. -/
structure State (S : Type) where
  phase : Phase S
  cancelled : Bool
  calls : List (Call S)
  returned : List (Option Error)
  received : List S
  warnings : List String
  deriving DecidableEq, Repr

/-- The events of a run. -/
inductive Event (S : Type)
  | listed
  | listFailed (err : Error)
  | ignore (id : String) (sn : S) (err : Error)
  | offer (id : String) (sn : S)
  | deliver
  | abandon
  | found (err : Option Error)
  | cancel
  deriving DecidableEq, Repr

variable {S : Type}

/-- The goroutine has just started; nothing is cancelled. -/
def State.init : State S := ⟨.loading, false, [], [], [], []⟩

/-- What the caller is being offered. -/
def Phase.offered : Phase S → List S
  | .offering sn => [sn]
  | _ => []

@[simp] theorem Phase.offered_offering (sn : S) : (Phase.offering sn).offered = [sn] := rfl
@[simp] theorem Phase.offered_loading : (Phase.loading : Phase S).offered = [] := rfl
@[simp] theorem Phase.offered_finding : (Phase.finding : Phase S).offered = [] := rfl
@[simp] theorem Phase.offered_closed : (Phase.closed : Phase S).offered = [] := rfl

/-- `Warnf("could not load snapshots: %v\n", err)`. -/
def loadWarning (err : Error) : String := s!"could not load snapshots: {err}\n"

/- `quote` is Go's `%q` and `ctxErr` the context's error, neither part of this repository. -/
variable (quote : String → String) (ctxErr : Error)

/-- `Warnf("Ignoring %q: %v\n", id, err)`, with `quote` for `%q`. -/
def ignoreWarning (id : String) (err : Error) : String := s!"Ignoring {quote id}: {err}\n"

/-- A run's steps. `listed` and `listFailed` end `MemorizeList`, the second with a warning;
`ignore` is a call of the callback with an error, which warns and returns nil; `offer` a call
with a snapshot, which enters the `select`; `deliver` its `case out <- sn`, where the caller
receives the snapshot and the callback returns nil, and `abandon` its `case <-ctx.Done()`,
which returns `ctx.Err()`; `found` is `FindAll` returning, with a warning for its error. The
caller may `cancel` at any time. -/
inductive Step : Event S → State S → State S → Prop
  | listed {s : State S} (h : s.phase = .loading) :
      Step .listed s { s with phase := .finding }
  | listFailed {s : State S} (err : Error) (h : s.phase = .loading) :
      Step (.listFailed err) s
        { s with phase := .closed, warnings := s.warnings ++ [loadWarning err] }
  | ignore {s : State S} (id : String) (sn : S) (err : Error) (h : s.phase = .finding) :
      Step (.ignore id sn err) s
        { s with calls := s.calls ++ [⟨id, sn, some err⟩], returned := s.returned ++ [none],
                 warnings := s.warnings ++ [ignoreWarning quote id err] }
  | offer {s : State S} (id : String) (sn : S) (h : s.phase = .finding) :
      Step (.offer id sn) s
        { s with phase := .offering sn, calls := s.calls ++ [⟨id, sn, none⟩] }
  | deliver {s : State S} {sn : S} (h : s.phase = .offering sn) :
      Step .deliver s
        { s with phase := .finding, received := s.received ++ [sn],
                 returned := s.returned ++ [none] }
  | abandon {s : State S} {sn : S} (h : s.phase = .offering sn) (hc : s.cancelled = true) :
      Step .abandon s { s with phase := .finding, returned := s.returned ++ [some ctxErr] }
  | found {s : State S} (err : Option Error) (h : s.phase = .finding) :
      Step (.found err) s
        { s with phase := .closed, warnings := s.warnings ++ (err.map loadWarning).toList }
  | cancel {s : State S} : Step .cancel s { s with cancelled := true }

/-- The states of the runs from the start. -/
def Reachable (s : State S) : Prop :=
  Relation.ReflTransGen (fun a b => ∃ e, Step quote ctxErr e a b) State.init s

/-- A cancelled context does not withdraw a snapshot on offer: both `select` cases are ready,
and the caller may still receive it. -/
example : Reachable id "context canceled"
    (⟨.finding, true, [⟨"a", 7, none⟩], [none], [7], []⟩ : State Nat) :=
  .tail (.tail (.tail (.tail .refl ⟨_, .listed rfl⟩) ⟨_, .offer "a" 7 rfl⟩)
    ⟨_, .cancel⟩) ⟨_, .deliver rfl⟩

/-- A run that skips a snapshot that failed to load, delivers one and closes. -/
theorem reachable_skip_deliver :
    Reachable id "context canceled" (⟨.closed, false, [⟨"b", 0, some "no such file"⟩,
      ⟨"a", 7, none⟩], [none, none], [7], ["Ignoring b: no such file\n"]⟩ : State Nat) :=
  .tail (.tail (.tail (.tail (.tail .refl ⟨_, .listed rfl⟩)
    ⟨_, .ignore "b" 0 "no such file" rfl⟩) ⟨_, .offer "a" 7 rfl⟩) ⟨_, .deliver rfl⟩)
    ⟨_, .found none rfl⟩

/-! ## What a run keeps -/

/-- The snapshots `FindAll` reported without an error, in order. -/
def okSnapshots (calls : List (Call S)) : List S :=
  calls.filterMap fun c => if c.err = none then some c.sn else none

/-- The warnings for the calls with an error, in order. -/
def ignored (calls : List (Call S)) : List String :=
  calls.filterMap fun c => c.err.map (ignoreWarning quote c.id)

@[simp] theorem okSnapshots_append (calls : List (Call S)) (c : Call S) :
    okSnapshots (calls ++ [c]) = okSnapshots calls ++ if c.err = none then [c.sn] else [] := by
  by_cases h : c.err = none <;> simp [okSnapshots, h]

@[simp] theorem ignored_append (calls : List (Call S)) (c : Call S) :
    ignored quote (calls ++ [c]) =
      ignored quote calls ++ (c.err.map (ignoreWarning quote c.id)).toList := by
  cases h : c.err <;> simp [ignored, h]

/-- What a call's return can be: nil, or `ctx.Err()` for a call that passed a snapshot, once the
context is cancelled. -/
def Answers (cancelled : Bool) (c : Call S) (r : Option Error) : Prop :=
  r = none ∨ c.err = none ∧ r = some ctxErr ∧ cancelled = true

/-- What every reachable state satisfies. The calls that have returned come first, each paired
with its return; the one left, if any, is in the `select` with its snapshot. -/
structure Inv (s : State S) : Prop where
  sublist : (s.received ++ s.phase.offered).Sublist (okSnapshots s.calls)
  complete : s.cancelled = false → s.received ++ s.phase.offered = okSnapshots s.calls
  returns : s.returned.length + s.phase.offered.length = s.calls.length
  answers : List.Forall₂ (Answers ctxErr s.cancelled) (s.calls.take s.returned.length) s.returned
  pending : ∀ c ∈ s.calls.drop s.returned.length, c.err = none
  warnings : s.warnings = ignored quote s.calls ∨
    s.phase = .closed ∧ ∃ err, s.warnings = ignored quote s.calls ++ [loadWarning err]

theorem Inv.init : Inv quote ctxErr (State.init : State S) where
  sublist := List.Sublist.slnil
  complete := fun _ => rfl
  returns := rfl
  answers := .nil
  pending := by simp [State.init]
  warnings := .inl rfl

theorem take_succ_of_drop {α : Type} {l : List α} {n : Nat} {c : α} (h : l.drop n = [c]) :
    l.take (n + 1) = l.take n ++ [c] := by
  have hc : l[n]? = some c := by rw [← Nat.add_zero n, ← List.getElem?_drop, h]; rfl
  rw [List.take_succ, hc]
  rfl

variable {quote ctxErr}

/-- Outside `closed` the warnings are exactly those of the failed calls. -/
theorem Inv.warnings_of_ne {s : State S} (inv : Inv quote ctxErr s) (h : s.phase ≠ .closed) :
    s.warnings = ignored quote s.calls :=
  inv.warnings.resolve_right fun hc => h hc.1

/-- Outside the `select` the caller has received a sublist of the reported snapshots. -/
theorem Inv.received_sublist {s : State S} (inv : Inv quote ctxErr s) (h : s.phase.offered = []) :
    s.received.Sublist (okSnapshots s.calls) := by
  simpa [h] using inv.sublist

/-- Outside the `select` every call has returned. -/
theorem Inv.returned_length {s : State S} (inv : Inv quote ctxErr s) (h : s.phase.offered = []) :
    s.returned.length = s.calls.length := by
  simpa [h] using inv.returns

/-- In the `select`, one call is left, and it passed a snapshot. -/
theorem Inv.pending_call {s : State S} {sn : S} (inv : Inv quote ctxErr s)
    (h : s.phase = .offering sn) :
    ∃ c, s.calls.drop s.returned.length = [c] ∧ c.err = none := by
  have hl := inv.returns
  rw [h, Phase.offered_offering, List.length_singleton] at hl
  obtain ⟨c, hc⟩ := List.length_eq_one.mp
    (show (s.calls.drop s.returned.length).length = 1 by rw [List.length_drop]; omega)
  exact ⟨c, hc, inv.pending c (hc ▸ List.mem_singleton_self c)⟩

/-- A call made and answered at once, outside the `select`, keeps the pairing. -/
theorem Inv.answers_append {s : State S} (inv : Inv quote ctxErr s) (h : s.phase.offered = [])
    {c : Call S} {r : Option Error} (hr : Answers ctxErr s.cancelled c r) :
    List.Forall₂ (Answers ctxErr s.cancelled) ((s.calls ++ [c]).take (s.returned.length + 1))
      (s.returned ++ [r]) := by
  have hl := inv.returned_length h
  rw [List.take_of_length_le (by simp [hl])]
  exact List.rel_append (by simpa [List.take_of_length_le hl.ge] using inv.answers) (.cons hr .nil)

/-- The call in the `select` returning `r` keeps the pairing. -/
theorem Inv.answers_pending {s : State S} {sn : S} (inv : Inv quote ctxErr s)
    (h : s.phase = .offering sn) {r : Option Error}
    (hr : ∀ c : Call S, c.err = none → Answers ctxErr s.cancelled c r) :
    List.Forall₂ (Answers ctxErr s.cancelled) (s.calls.take (s.returned.length + 1))
        (s.returned ++ [r]) ∧
      ∀ c ∈ s.calls.drop (s.returned.length + 1), c.err = none := by
  obtain ⟨c, hd, hc⟩ := inv.pending_call h
  refine ⟨by rw [take_succ_of_drop hd]; exact List.rel_append inv.answers (.cons (hr c hc) .nil),
    fun x hx => ?_⟩
  rw [← List.drop_drop, hd] at hx
  cases hx

/-- Every step keeps `Inv`. -/
theorem Inv.step {e : Event S} {s s' : State S} (inv : Inv quote ctxErr s)
    (h : Step quote ctxErr e s s') : Inv quote ctxErr s' := by
  cases h with
  | listed h =>
    exact ⟨by simpa [h] using inv.sublist, by simpa [h] using inv.complete,
      by simpa [h] using inv.returns, inv.answers, inv.pending,
      .inl (inv.warnings_of_ne (by simp [h]))⟩
  | listFailed err h =>
    exact ⟨by simpa [h] using inv.sublist, by simpa [h] using inv.complete,
      by simpa [h] using inv.returns, inv.answers, inv.pending,
      .inr ⟨rfl, err, by rw [inv.warnings_of_ne (by simp [h])]⟩⟩
  | ignore id sn err h =>
    have ho : s.phase.offered = [] := by simp [h]
    refine ⟨by simpa using inv.sublist, by simpa using inv.complete,
      by simpa [h] using inv.returns, by simpa using inv.answers_append ho (.inl rfl),
      fun c hc => ?_, .inl ?_⟩
    · simp [List.drop_of_length_le, inv.returned_length ho] at hc
    · simp [inv.warnings_of_ne (by simp [h])]
  | offer id sn h =>
    have ho : s.phase.offered = [] := by simp [h]
    have hl := inv.returned_length ho
    refine ⟨?_, fun hc => ?_, by simpa [h] using inv.returns, ?_, fun c hc => ?_,
      .inl (by simpa using inv.warnings_of_ne (by simp [h]))⟩
    · simpa using (inv.received_sublist ho).append (List.Sublist.refl [sn])
    · simpa [h] using inv.complete hc
    · simpa [List.take_of_length_le hl.ge, List.take_left' hl.symm] using inv.answers
    · simp only [List.drop_left' hl.symm, List.mem_singleton] at hc
      rw [hc]
  | deliver h =>
    obtain ⟨hans, hpend⟩ := inv.answers_pending h fun _ _ => .inl rfl
    exact ⟨by simpa [h] using inv.sublist, by simpa [h] using inv.complete,
      by simpa [h] using inv.returns, by simpa using hans, by simpa using hpend,
      .inl (inv.warnings_of_ne (by simp [h]))⟩
  | abandon h hc =>
    obtain ⟨hans, hpend⟩ := inv.answers_pending h fun _ he => .inr ⟨he, rfl, hc⟩
    exact ⟨by simpa [h] using (List.sublist_append_left _ _).trans inv.sublist,
      fun hc' => by simp [hc] at hc', by simpa [h] using inv.returns, by simpa using hans,
      by simpa using hpend, .inl (inv.warnings_of_ne (by simp [h]))⟩
  | found err h =>
    refine ⟨by simpa [h] using inv.sublist, by simpa [h] using inv.complete,
      by simpa [h] using inv.returns, inv.answers, inv.pending, ?_⟩
    cases err with
    | none => exact .inl (by simpa using inv.warnings_of_ne (by simp [h]))
    | some err => exact .inr ⟨rfl, err, by simp [inv.warnings_of_ne (by simp [h])]⟩
  | cancel =>
    exact ⟨inv.sublist, fun hc => by simp at hc, inv.returns,
      inv.answers.imp fun _ _ hr => hr.imp_right fun h => ⟨h.1, h.2.1, rfl⟩, inv.pending,
      inv.warnings⟩

/-- `Inv` holds all along every run. -/
theorem reachable_inv {s : State S} (hs : Reachable quote ctxErr s) : Inv quote ctxErr s := by
  induction hs with
  | refl => exact Inv.init quote ctxErr
  | tail _ hstep ih => exact hstep.elim fun _ h => ih.step h

/-- The caller receives, in order and each once, snapshots `FindAll` reported without an error,
and until the context is cancelled it has received, or is being offered, every one of them. -/
theorem reachable_received {s : State S} (hs : Reachable quote ctxErr s) :
    (s.received ++ s.phase.offered).Sublist (okSnapshots s.calls) ∧
      (s.cancelled = false → s.received ++ s.phase.offered = okSnapshots s.calls) :=
  ⟨(reachable_inv hs).sublist, (reachable_inv hs).complete⟩

theorem reachable_received_skips :
    let s : State Nat := ⟨.closed, false, [⟨"b", 0, some "no such file"⟩, ⟨"a", 7, none⟩],
      [none, none], [7], ["Ignoring b: no such file\n"]⟩
    (s.received ++ s.phase.offered).Sublist (okSnapshots s.calls) ∧
      (s.cancelled = false → s.received ++ s.phase.offered = okSnapshots s.calls) :=
  reachable_received reachable_skip_deliver

/-- Every call of the callback but the one waiting in the `select` has returned, once, and the
returns answer the calls in order: a call that passed an error returns nil, and a call returns
an error only if it passed a snapshot and the context is cancelled, and then `ctx.Err()`. -/
theorem reachable_returned {s : State S} (hs : Reachable quote ctxErr s) :
    s.returned.length + s.phase.offered.length = s.calls.length ∧
      List.Forall₂ (Answers ctxErr s.cancelled) (s.calls.take s.returned.length) s.returned :=
  ⟨(reachable_inv hs).returns, (reachable_inv hs).answers⟩

theorem reachable_returned_skips :
    let s : State Nat := ⟨.closed, false, [⟨"b", 0, some "no such file"⟩, ⟨"a", 7, none⟩],
      [none, none], [7], ["Ignoring b: no such file\n"]⟩
    s.returned.length + s.phase.offered.length = s.calls.length ∧
      List.Forall₂ (Answers "context canceled" s.cancelled) (s.calls.take s.returned.length)
        s.returned :=
  reachable_returned reachable_skip_deliver

/-- The warnings are one for each call with an error, in order, and at most one more, a failure
to list or find the snapshots, last and only once the channel is closed. -/
theorem reachable_warnings {s : State S} (hs : Reachable quote ctxErr s) :
    s.warnings = ignored quote s.calls ∨
      s.phase = .closed ∧ ∃ err, s.warnings = ignored quote s.calls ++ [loadWarning err] :=
  (reachable_inv hs).warnings

theorem reachable_warnings_skips :
    let s : State Nat := ⟨.closed, false, [⟨"b", 0, some "no such file"⟩, ⟨"a", 7, none⟩],
      [none, none], [7], ["Ignoring b: no such file\n"]⟩
    s.warnings = ignored id s.calls ∨
      s.phase = .closed ∧ ∃ err, s.warnings = ignored id s.calls ++ [loadWarning err] :=
  reachable_warnings reachable_skip_deliver

end FilteredSnapshots

end Restic
