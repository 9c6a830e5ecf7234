/-
# Aeolus.Theory.Transaction — fallible handlers over a store, and versioned documents

A handler reads and writes a store and may throw.  A throw does not undo what was
written before it; `atomically` does that, as a database transaction.  Two notions
carry the reasoning:

* `Atomic h` — when `h` throws, the store is as it was;
* `Ensures h R` — when `h` returns, store before, result and store after stand in `R`.

`ReadOnly` checks before an atomic write, and a tail after it that cannot throw, keep
it atomic (`Atomic.after_readOnly`, `Atomic.then_safe`).

A document carries a version that every accepted write names and moves by one.  Then
the versions named along any run are consecutive (`basesAlong_consecutive`): no two
accepted writes start from the same version.
-/
import Aeolus.Theory.Run

namespace Aeolus.Theory

universe u v

/-! ## Results that may be exceptions -/

section Except

variable {ε α β : Type u}

theorem ok_bind (a : α) (next : α → Except ε β) : (Except.ok a : Except ε α) >>= next = next a :=
  rfl

/-- What returned went through its first part. -/
theorem ok_of_bind {first : Except ε α} {next : α → Except ε β} {result : β}
    (returned : first >>= next = .ok result) : ∃ a, first = .ok a ∧ next a = .ok result := by
  cases first with
  | error e => cases returned
  | ok a => exact ⟨a, rfl, returned⟩

/-- What returned passed its checks. -/
theorem ok_of_unless {condition : Prop} [Decidable condition] {e : ε} {next : α → Except ε β}
    {otherwise : Except ε β} {result : β}
    (returned : (if condition then throw e >>= next else otherwise) = .ok result) :
    ¬condition ∧ otherwise = .ok result := by
  split at returned
  · cases returned
  · rename_i passed
    exact ⟨passed, returned⟩

/-- A list that was computed, element by element. -/
theorem forall₂_of_mapM {f : α → Except ε β} {xs : List α} {ys : List β}
    (returned : xs.mapM f = .ok ys) : List.Forall₂ (fun x y => f x = .ok y) xs ys := by
  induction xs generalizing ys with
  | nil =>
      cases returned
      exact .nil
  | cons x xs ih =>
      rw [List.mapM_cons] at returned
      obtain ⟨y, here, returned⟩ := ok_of_bind returned
      obtain ⟨rest, later, returned⟩ := ok_of_bind returned
      cases returned
      exact .cons here (ih later)

/-- A list can be computed when each of its elements can. -/
theorem mapM_ok_iff {f : α → Except ε β} {xs : List α} :
    (∃ ys, xs.mapM f = .ok ys) ↔ ∀ x ∈ xs, ∃ y, f x = .ok y := by
  induction xs with
  | nil => simp [pure, Except.pure]
  | cons x xs ih =>
      rw [List.forall_mem_cons, ← ih]
      constructor
      · rintro ⟨ys, returned⟩
        rw [List.mapM_cons] at returned
        obtain ⟨y, here, returned⟩ := ok_of_bind returned
        obtain ⟨rest, later, -⟩ := ok_of_bind returned
        exact ⟨⟨y, here⟩, rest, later⟩
      · rintro ⟨⟨y, here⟩, ys, later⟩
        exact ⟨y :: ys, by rw [List.mapM_cons, here, ok_bind, later]; rfl⟩

end Except

/-- A handler: the result or the exception, and the store it leaves. -/
def Handler (ε σ α : Type u) := σ → Except ε α × σ

namespace Handler

variable {ε σ α β : Type u}

instance : Monad (Handler ε σ) where
  pure a := fun s => (.ok a, s)
  bind h k := fun s =>
    match h s with
    | (.ok a, s') => k a s'
    | (.error e, s') => (.error e, s')

/-- A computation that does not look at the store. -/
def check (result : Except ε α) : Handler ε σ α := fun s => (result, s)

instance : MonadLift (Except ε) (Handler ε σ) := ⟨check⟩

instance : MonadExceptOf ε (Handler ε σ) where
  throw e := check (.error e)
  tryCatch h recover := fun s =>
    match h s with
    | (.ok a, s') => (.ok a, s')
    | (.error e, s') => recover e s'

/-- Read from the store. -/
def asks (read : σ → α) : Handler ε σ α := fun s => (.ok (read s), s)

/-- Change the store. -/
def modify (change : σ → σ) : Handler ε σ PUnit := fun s => (.ok ⟨⟩, change s)

/-- One transaction: on an exception the store is what it was before. -/
def atomically (body : Handler ε σ α) : Handler ε σ α := fun s =>
  match body s with
  | (.ok a, s') => (.ok a, s')
  | (.error e, _) => (.error e, s)

/-- The same handler on one part of a larger store. -/
def zoom {τ : Type u} (part : τ → σ) (put : τ → σ → τ) (h : Handler ε σ α) : Handler ε τ α :=
  fun t => ((h (part t)).1, put t (h (part t)).2)

theorem bind_apply (h : Handler ε σ α) (k : α → Handler ε σ β) (s : σ) :
    (h >>= k) s = match h s with
      | (.ok a, s') => k a s'
      | (.error e, s') => (.error e, s') := rfl

@[simp] theorem asks_apply (read : σ → α) (s : σ) :
    (asks read : Handler ε σ α) s = (.ok (read s), s) := rfl

@[simp] theorem modify_apply (change : σ → σ) (s : σ) :
    (modify change : Handler ε σ PUnit) s = (.ok ⟨⟩, change s) := rfl

/-- What a sequence that returned went through. -/
theorem bind_ok {h : Handler ε σ α} {k : α → Handler ε σ β} {s s'' : σ} {b : β}
    (returned : (h >>= k) s = (.ok b, s'')) :
    ∃ a s', h s = (.ok a, s') ∧ k a s' = (.ok b, s'') := by
  rw [bind_apply] at returned
  rcases outcome : h s with ⟨_ | a, s'⟩
  · rw [outcome] at returned
    cases returned
  · rw [outcome] at returned
    exact ⟨a, s', rfl, returned⟩

/-- After a part that returned, the rest runs from the store it left. -/
theorem bind_of_ok {h : Handler ε σ α} {k : α → Handler ε σ β} {s s' : σ} {a : α}
    (returned : h s = (.ok a, s')) : (h >>= k) s = k a s' := by
  rw [bind_apply, returned]

/-- After a part that threw, nothing runs. -/
theorem bind_of_error {h : Handler ε σ α} {k : α → Handler ε σ β} {s s' : σ} {e : ε}
    (threw : h s = (.error e, s')) : (h >>= k) s = (.error e, s') := by
  rw [bind_apply, threw]

/-- Where a sequence that threw did throw. -/
theorem bind_error {h : Handler ε σ α} {k : α → Handler ε σ β} {s s'' : σ} {e : ε}
    (threw : (h >>= k) s = (.error e, s'')) :
    h s = (.error e, s'') ∨ ∃ a s', h s = (.ok a, s') ∧ k a s' = (.error e, s'') := by
  rw [bind_apply] at threw
  rcases outcome : h s with ⟨e' | a, s'⟩
  · rw [outcome] at threw
    cases threw
    exact Or.inl rfl
  · rw [outcome] at threw
    exact Or.inr ⟨a, s', rfl, threw⟩

theorem check_of_ok {result : Except ε α} {s : σ} {a : α} (passed : result = .ok a) :
    (check result : Handler ε σ α) s = (.ok a, s) := by
  rw [passed]
  rfl

/-- A check that returned: its result, and the rest from the same store. -/
theorem check_ok {result : Except ε α} {k : α → Handler ε σ β} {s s' : σ} {b : β}
    (returned : (check result >>= k) s = (.ok b, s')) :
    ∃ a, result = .ok a ∧ k a s = (.ok b, s') := by
  cases result with
  | error e => cases returned
  | ok a => exact ⟨a, rfl, returned⟩

/-- A sequence that starts with a check returns when the check and the rest do. -/
theorem check_returns {result : Except ε α} {k : α → Handler ε σ β} {s : σ} {b : β} :
    ((check result >>= k) s).1 = .ok b ↔ ∃ a, result = .ok a ∧ (k a s).1 = .ok b := by
  cases result with
  | error e =>
      constructor
      · intro returned
        cases returned
      · rintro ⟨a, passed, -⟩
        cases passed
  | ok a =>
      constructor
      · intro returned
        exact ⟨a, rfl, returned⟩
      · rintro ⟨a, passed, returned⟩
        cases passed
        exact returned

theorem map_ok {f : α → β} {h : Handler ε σ α} {s s' : σ} {b : β}
    (returned : (f <$> h) s = (.ok b, s')) : ∃ a, h s = (.ok a, s') ∧ f a = b := by
  obtain ⟨a, s₁, here, rest⟩ := bind_ok returned
  cases rest
  exact ⟨a, here, rfl⟩

/-! ## Exceptions that leave no trace -/

/-- The handler never writes. -/
def ReadOnly (h : Handler ε σ α) : Prop := ∀ s, (h s).2 = s

/-- The handler never throws. -/
def Total (h : Handler ε σ α) : Prop := ∀ s e s', h s ≠ (.error e, s')

/-- When the handler throws, the store is as it was. -/
def Atomic (h : Handler ε σ α) : Prop := ∀ s e s', h s = (.error e, s') → s' = s

theorem ReadOnly.store_eq {h : Handler ε σ α} (readOnly : ReadOnly h) {s s' : σ}
    {result : Except ε α} (ran : h s = (result, s')) : s' = s := by
  have same := readOnly s
  rw [ran] at same
  exact same

theorem ReadOnly.atomic {h : Handler ε σ α} (readOnly : ReadOnly h) : Atomic h :=
  fun _ _ _ threw => readOnly.store_eq threw

theorem Total.atomic {h : Handler ε σ α} (total : Total h) : Atomic h :=
  fun s e s' threw => absurd threw (total s e s')

theorem readOnly_check (result : Except ε α) : ReadOnly (check result : Handler ε σ α) :=
  fun _ => rfl

theorem readOnly_pure (a : α) : ReadOnly (pure a : Handler ε σ α) := fun _ => rfl

theorem readOnly_asks (read : σ → α) : ReadOnly (asks read : Handler ε σ α) := fun _ => rfl

theorem ReadOnly.bind {h : Handler ε σ α} {k : α → Handler ε σ β} (first : ReadOnly h)
    (next : ∀ a, ReadOnly (k a)) : ReadOnly (h >>= k) := by
  intro s
  rw [bind_apply]
  rcases outcome : h s with ⟨e | a, s'⟩
  · exact first.store_eq outcome
  · exact (next a s').trans (first.store_eq outcome)

/-- After a read-only handler that returned, the rest runs from the same store. -/
theorem ReadOnly.bind_ok {h : Handler ε σ α} {k : α → Handler ε σ β} (first : ReadOnly h)
    {s s' : σ} {b : β} (returned : (h >>= k) s = (.ok b, s')) :
    ∃ a, h s = (.ok a, s) ∧ k a s = (.ok b, s') := by
  obtain ⟨a, s₁, here, rest⟩ := Handler.bind_ok returned
  obtain rfl := first.store_eq here
  exact ⟨a, here, rest⟩

theorem total_pure (a : α) : Total (pure a : Handler ε σ α) := by
  intro s e s' threw
  cases threw

theorem total_asks (read : σ → α) : Total (asks read : Handler ε σ α) := by
  intro s e s' threw
  cases threw

theorem total_modify (change : σ → σ) : Total (modify change : Handler ε σ PUnit) := by
  intro s e s' threw
  cases threw

theorem Total.bind {h : Handler ε σ α} {k : α → Handler ε σ β} (first : Total h)
    (next : ∀ a, Total (k a)) : Total (h >>= k) := by
  intro s e s'' threw
  rcases bind_error threw with here | ⟨a, s', _, later⟩
  · exact first _ _ _ here
  · exact next a _ _ _ later

theorem atomic_atomically (body : Handler ε σ α) : Atomic (atomically body) := by
  intro s e s' threw
  unfold atomically at threw
  split at threw
  · cases threw
  · cases threw
    rfl

/-- A transaction that returned did what its body did. -/
theorem atomically_ok {body : Handler ε σ α} {s s' : σ} {a : α}
    (returned : atomically body s = (.ok a, s')) : body s = (.ok a, s') := by
  unfold atomically at returned
  split at returned
  · rename_i outcome
    rw [outcome, returned]
  · cases returned

/-- A handler that only translates exceptions returns when its body does. -/
theorem tryCatch_throw_ok {h : Handler ε σ α} {translate : ε → ε} {s s' : σ} {a : α}
    (returned : (tryCatch h fun e => throw (translate e)) s = (.ok a, s')) : h s = (.ok a, s') := by
  change (match h s with
    | (.ok a, s') => (.ok a, s')
    | (.error e, s') => (.error (translate e), s') : Except ε α × σ) = _ at returned
  split at returned
  · rename_i outcome
    rw [outcome, returned]
  · cases returned

/-- Checks before an atomic handler keep it atomic. -/
theorem Atomic.after_readOnly {h : Handler ε σ α} {k : α → Handler ε σ β} (first : ReadOnly h)
    (next : ∀ a, Atomic (k a)) : Atomic (h >>= k) := by
  intro s e s'' threw
  rcases bind_error threw with here | ⟨a, s', here, later⟩
  · exact first.atomic s e s'' here
  · rw [next a s' e s'' later, first.store_eq here]

theorem Atomic.ite {c : Prop} [Decidable c] {h k : Handler ε σ α} (left : Atomic h)
    (right : Atomic k) : Atomic (if c then h else k) := by
  split
  · exact left
  · exact right

theorem Atomic.zoom {τ : Type u} {part : τ → σ} {put : τ → σ → τ} {h : Handler ε σ α}
    (atomic : Atomic h) (law : ∀ t, put t (part t) = t) : Atomic (h.zoom part put) := by
  intro t e t' threw
  have result : (h (part t)).1 = .error e := congrArg Prod.fst threw
  have store : put t (h (part t)).2 = t' := congrArg Prod.snd threw
  have same : (h (part t)).2 = part t := atomic (part t) e _ (Prod.ext result rfl)
  rw [← store, same, law]

theorem zoom_ok {τ : Type u} {part : τ → σ} {put : τ → σ → τ} {h : Handler ε σ α} {t t' : τ}
    {a : α} (returned : h.zoom part put t = (.ok a, t')) :
    ∃ s', h (part t) = (.ok a, s') ∧ t' = put t s' := by
  have result : (h (part t)).1 = .ok a := congrArg Prod.fst returned
  have store : put t (h (part t)).2 = t' := congrArg Prod.snd returned
  exact ⟨(h (part t)).2, Prod.ext result rfl, store.symm⟩

/-! ## What a handler that returns has done -/

/-- Store before, result and store after of every run that returns stand in `R`. -/
def Ensures (h : Handler ε σ α) (R : σ → α → σ → Prop) : Prop :=
  ∀ s a s', h s = (.ok a, s') → R s a s'

/-- A preorder on stores that every run that returns follows. -/
def Follows (R : σ → σ → Prop) (h : Handler ε σ α) : Prop := Ensures h fun s _ s' => R s s'

/-- So does a tail that cannot throw where the handler leaves off. -/
theorem Atomic.then_safe {h : Handler ε σ α} {k : α → Handler ε σ β} (first : Atomic h)
    (next : Ensures h fun _ a s' => ∀ e s'', k a s' ≠ (.error e, s'')) : Atomic (h >>= k) := by
  intro s e s'' threw
  rcases bind_error threw with here | ⟨a, s', here, later⟩
  · exact first s e s'' here
  · exact absurd later (next s a s' here e s'')

theorem Atomic.then_total {h : Handler ε σ α} {k : α → Handler ε σ β} (first : Atomic h)
    (next : ∀ a, Total (k a)) : Atomic (h >>= k) :=
  first.then_safe fun _ a s' _ => next a s'

theorem Atomic.map {h : Handler ε σ α} (f : α → β) (atomic : Atomic h) : Atomic (f <$> h) :=
  atomic.then_total fun _ => total_pure _

section Follows

variable {R : σ → σ → Prop}

theorem ReadOnly.follows (refl : ∀ s, R s s) {h : Handler ε σ α} (readOnly : ReadOnly h) :
    Follows R h := by
  intro s a s' returned
  rw [readOnly.store_eq returned]
  exact refl s

theorem follows_modify {change : σ → σ} (moves : ∀ s, R s (change s)) :
    Follows R (modify change : Handler ε σ PUnit) := by
  intro s a s' returned
  cases returned
  exact moves s

theorem Follows.bind (trans : ∀ s t w, R s t → R t w → R s w) {h : Handler ε σ α}
    {k : α → Handler ε σ β} (first : Follows R h) (next : ∀ a, Follows R (k a)) :
    Follows R (h >>= k) := by
  intro s b s'' returned
  obtain ⟨a, s', here, later⟩ := bind_ok returned
  exact trans s s' s'' (first s a s' here) (next a s' b s'' later)

/-- A loop follows what each of its rounds follows. -/
theorem follows_forM (refl : ∀ s, R s s) (trans : ∀ s t w, R s t → R t w → R s w)
    {γ : Type v} {round : γ → Handler ε σ PUnit} (each : ∀ x, Follows R (round x)) (xs : List γ) :
    Follows R (xs.forM round) := by
  induction xs with
  | nil => exact (readOnly_pure _).follows refl
  | cons x xs ih => exact Follows.bind trans (each x) fun _ => ih

end Follows

/-! ## What a handler returns -/

/-- Every result of the handler has the property. -/
def Yields (Q : α → Prop) (h : Handler ε σ α) : Prop := Ensures h fun _ a _ => Q a

section Yields

theorem yields_pure {Q : α → Prop} {a : α} (holds : Q a) :
    Yields Q (pure a : Handler ε σ α) := by
  intro s b s' returned
  cases returned
  exact holds

theorem yields_throw {Q : α → Prop} (e : ε) : Yields Q (throw e : Handler ε σ α) := by
  intro s a s' returned
  cases returned

/-- The last part decides. -/
theorem Yields.bind {Q : β → Prop} {h : Handler ε σ α} {k : α → Handler ε σ β}
    (next : ∀ a, Yields Q (k a)) : Yields Q (h >>= k) := by
  intro s b s'' returned
  obtain ⟨a, s', _, rest⟩ := bind_ok returned
  exact next a s' b s'' rest

theorem Yields.ite {Q : α → Prop} {c : Prop} [Decidable c] {h k : Handler ε σ α}
    (left : c → Yields Q h) (right : ¬ c → Yields Q k) : Yields Q (if c then h else k) := by
  split
  · exact left ‹_›
  · exact right ‹_›

end Yields

/-! ## What holds whether a handler returns or throws -/

/-- Whatever the outcome, `P` still holds of the store. -/
def Preserves (P : σ → Prop) (h : Handler ε σ α) : Prop := ∀ s, P s → P (h s).2

section Preserves

variable {P : σ → Prop}

theorem ReadOnly.preserves {h : Handler ε σ α} (readOnly : ReadOnly h) : Preserves P h := by
  intro s holds
  rw [readOnly s]
  exact holds

theorem preserves_modify {change : σ → σ} (keeps : ∀ s, P s → P (change s)) :
    Preserves P (modify change : Handler ε σ PUnit) := keeps

/-- After a sequence from one store. -/
theorem bind_holds {h : Handler ε σ α} {k : α → Handler ε σ β} {s : σ} (first : P (h s).2)
    (next : ∀ a s', h s = (.ok a, s') → P s' → P (k a s').2) : P ((h >>= k) s).2 := by
  rw [bind_apply]
  rcases outcome : h s with ⟨e | a, s'⟩
  · rw [outcome] at first
    exact first
  · rw [outcome] at first
    exact next a s' outcome first

/-- The rest may rely on what the first part has established when it returned. -/
theorem Preserves.bind_of {h : Handler ε σ α} {k : α → Handler ε σ β} (first : Preserves P h)
    (next : ∀ s a s', h s = (.ok a, s') → P s' → P (k a s').2) : Preserves P (h >>= k) :=
  fun s holds => bind_holds (first s holds) (next s)

theorem Preserves.bind {h : Handler ε σ α} {k : α → Handler ε σ β} (first : Preserves P h)
    (next : ∀ a, Preserves P (k a)) : Preserves P (h >>= k) :=
  first.bind_of fun _ a s' _ holds => next a s' holds

theorem Preserves.ite {c : Prop} [Decidable c] {h k : Handler ε σ α} (left : c → Preserves P h)
    (right : ¬ c → Preserves P k) : Preserves P (if c then h else k) := by
  split
  · exact left ‹_›
  · exact right ‹_›

theorem preserves_throw (e : ε) : Preserves P (throw e : Handler ε σ α) :=
  (readOnly_check (.error e)).preserves

theorem preserves_pure (a : α) : Preserves P (pure a : Handler ε σ α) :=
  (readOnly_pure a).preserves

theorem Preserves.atomically {h : Handler ε σ α} (body : Preserves P h) :
    Preserves P (atomically h) := by
  intro s holds
  have after := body s holds
  unfold Handler.atomically
  rcases outcome : h s with ⟨e | a, s'⟩
  · exact holds
  · rw [outcome] at after
    exact after

theorem Preserves.tryCatch {h : Handler ε σ α} {recover : ε → Handler ε σ α}
    (body : Preserves P h) (handler : ∀ e, Preserves P (recover e)) :
    Preserves P (tryCatch h recover) := by
  intro s holds
  have after := body s holds
  change P (match h s with
    | (.ok a, s') => (.ok a, s')
    | (.error e, s') => recover e s' : Except ε α × σ).2
  rcases outcome : h s with ⟨e | a, s'⟩
  · rw [outcome] at after
    exact handler e s' after
  · rw [outcome] at after
    exact after

end Preserves

/-! ## Loops that stop at the first exception -/

section Loop

variable {γ : Type v} {round : γ → Handler ε σ PUnit}

theorem forM_cons (x : γ) (xs : List γ) (s : σ) :
    (x :: xs).forM round s = match round x s with
      | (.ok _, s') => xs.forM round s'
      | (.error e, s') => (.error e, s') := by
  change (round x >>= fun _ => xs.forM round) s = _
  rw [bind_apply]
  rcases round x s with ⟨e | a, s'⟩ <;> rfl

theorem forM_congr {round' : γ → Handler ε σ PUnit} {xs : List γ}
    (same : ∀ x ∈ xs, round x = round' x) : xs.forM round = xs.forM round' := by
  induction xs with
  | nil => rfl
  | cons x xs ih =>
      have rest := ih fun y mem => same y (List.mem_cons_of_mem _ mem)
      funext s
      rw [forM_cons, forM_cons, same x List.mem_cons_self, rest]

/-- After a first part that returned, the loop goes on with the rest. -/
theorem forM_append {xs ys : List γ} {s mid : σ} (ran : xs.forM round s = (.ok ⟨⟩, mid)) :
    (xs ++ ys).forM round s = ys.forM round mid := by
  induction xs generalizing s with
  | nil =>
      cases ran
      rfl
  | cons x xs ih =>
      obtain ⟨_, s', here, rest⟩ := bind_ok ran
      rw [List.cons_append, forM_cons, here]
      exact ih rest

/-- A loop that returns has done, to whatever its stores stand for, what its rounds do. -/
theorem forM_simulates {τ : Type v} {R : σ → τ → Prop} {f : τ → γ → τ} {xs : List γ}
    (each : ∀ x ∈ xs, ∀ s t s', R s t → round x s = (.ok ⟨⟩, s') → R s' (f t x)) {s s' : σ}
    {t : τ} (related : R s t) (returned : xs.forM round s = (.ok ⟨⟩, s')) :
    R s' (xs.foldl f t) := by
  induction xs generalizing s t with
  | nil =>
      cases returned
      exact related
  | cons x xs ih =>
      obtain ⟨here, later⟩ := List.forall_mem_cons.mp each
      obtain ⟨_, mid, first, rest⟩ := bind_ok returned
      exact ih later (here s t mid related first) rest

/-- Rounds that return from the stores they meet make a loop that returns. -/
theorem forM_returns {P : σ → Prop} {xs : List γ}
    (each : ∀ x ∈ xs, ∀ s, P s → ∃ s', round x s = (.ok ⟨⟩, s') ∧ P s') {s : σ} (holds : P s) :
    ∃ s', xs.forM round s = (.ok ⟨⟩, s') ∧ P s' := by
  induction xs generalizing s with
  | nil => exact ⟨s, rfl, holds⟩
  | cons x xs ih =>
      obtain ⟨here, later⟩ := List.forall_mem_cons.mp each
      obtain ⟨mid, first, still⟩ := here s holds
      obtain ⟨s', rest, last⟩ := ih later still
      refine ⟨s', ?_, last⟩
      rw [forM_cons, first]
      exact rest

/-- Rounds that change nothing make a loop that changes nothing. -/
theorem forM_eq_self {xs : List γ} {s : σ} (each : ∀ x ∈ xs, round x s = (.ok ⟨⟩, s)) :
    xs.forM round s = (.ok ⟨⟩, s) := by
  induction xs with
  | nil => rfl
  | cons x xs ih =>
      obtain ⟨here, later⟩ := List.forall_mem_cons.mp each
      rw [forM_cons, here]
      exact ih later

/-- Rounds whose outcome depends on a view of the store alone make a loop that does. -/
theorem forM_view {τ : Type v} (view : σ → τ)
    (each : ∀ x s t, view s = view t →
      (round x s).1 = (round x t).1 ∧ view (round x s).2 = view (round x t).2)
    (xs : List γ) {s t : σ} (same : view s = view t) :
    (xs.forM round s).1 = (xs.forM round t).1 ∧
      view (xs.forM round s).2 = view (xs.forM round t).2 := by
  induction xs generalizing s t with
  | nil => exact ⟨rfl, same⟩
  | cons x xs ih =>
      obtain ⟨result, views⟩ := each x s t same
      rw [forM_cons, forM_cons]
      rcases first : round x s with ⟨e | a, s'⟩ <;> rcases second : round x t with ⟨e' | a', t'⟩ <;>
        rw [first, second] at result views
      · exact ⟨congrArg Except.error (Except.error.inj result), views⟩
      · cases result
      · cases result
      · exact ih views

end Loop

end Handler

/-! ## Versioned documents -/

section Versioned

variable {S : Type u} {E : Type v} (step : S → E → S) (base : S → E → Option Nat)

/-- The versions that the accepted writes of a run name, in order. -/
def basesAlong : S → List E → List Nat
  | _, [] => []
  | s, e :: es => (base s e).toList ++ basesAlong (step s e) es

/-- One step on a document that is there: without an accepted write its version
stays; an accepted write names that version, and moves it by one or removes the
document. -/
def Versioned (version : S → Option Nat) (s : S) (e : E) : Prop :=
  match base s e with
  | none => version (step s e) = version s
  | some r => version s = some r ∧
      (version (step s e) = some (r + 1) ∨ version (step s e) = none)

variable {step base} {version : S → Option Nat}

theorem basesAlong_of_absent {s : S} {es : List E}
    (along : Along step (Versioned step base version) s es) (absent : version s = none) :
    basesAlong step base s es = [] ∧ version (run step s es) = none := by
  induction es generalizing s with
  | nil => exact ⟨rfl, absent⟩
  | cons e es ih =>
      obtain ⟨here, rest⟩ := along
      unfold Versioned at here
      cases accepted : base s e with
      | none =>
          rw [accepted] at here
          obtain ⟨none_left, gone⟩ := ih rest (here.trans absent)
          exact ⟨by rw [basesAlong, accepted, none_left]; rfl, gone⟩
      | some r =>
          rw [accepted] at here
          rw [absent] at here
          cases here.1

/-- **Consecutive versions.**  The accepted writes of a run name the versions
`v, v + 1, …` one after the other, and the version they leave is the next one, unless
the document was removed. -/
theorem basesAlong_consecutive {s : S} {es : List E} {v : Nat}
    (along : Along step (Versioned step base version) s es) (present : version s = some v) :
    basesAlong step base s es = List.range' v (basesAlong step base s es).length ∧
      ∀ v', version (run step s es) = some v' →
        v' = v + (basesAlong step base s es).length := by
  induction es generalizing s v with
  | nil =>
      refine ⟨rfl, fun v' final => ?_⟩
      rw [run_nil, present] at final
      exact (Option.some.inj final).symm
  | cons e es ih =>
      obtain ⟨here, rest⟩ := along
      unfold Versioned at here
      cases accepted : base s e with
      | none =>
          rw [accepted] at here
          simpa only [basesAlong, accepted, Option.toList_none, List.nil_append, run_cons]
            using ih rest (here.trans present)
      | some r =>
          rw [accepted] at here
          obtain ⟨named, next⟩ := here
          obtain rfl : v = r := Option.some.inj (present.symm.trans named)
          simp only [basesAlong, accepted, Option.toList_some, List.singleton_append, run_cons,
            List.length_cons, List.range'_succ, List.cons.injEq, true_and]
          rcases next with moved | removed
          · obtain ⟨tail, final⟩ := ih rest moved
            refine ⟨tail, fun v' last => ?_⟩
            rw [final v' last]
            omega
          · obtain ⟨none_left, gone⟩ := basesAlong_of_absent rest removed
            rw [none_left, gone]
            exact ⟨rfl, fun v' last => by cases last⟩

end Versioned

end Aeolus.Theory
