import Mathlib.Data.List.Forall2

/-!
# Traversals that may fail

A computation that may fail goes on only after a success. Mapping a list with one either succeeds at
every item or ends with the failure of the first item that has one.
-/

namespace SchemaScaffold.Traversal

variable {α β ε : Type}

@[simp]
theorem ok_bind (a : α) (f : α → Except ε β) : (Except.ok a >>= f) = f a := rfl

@[simp]
theorem error_bind (e : ε) (f : α → Except ε β) : (Except.error e >>= f) = .error e := rfl

theorem bind_eq_ok_iff {x : Except ε α} {f : α → Except ε β} {b : β} :
    (x >>= f) = .ok b ↔ ∃ a, x = .ok a ∧ f a = .ok b := by
  cases x <;> simp

theorem bind_eq_error_iff {x : Except ε α} {f : α → Except ε β} {e : ε} :
    (x >>= f) = .error e ↔ x = .error e ∨ ∃ a, x = .ok a ∧ f a = .error e := by
  cases x <;> simp

theorem toOption_eq_some_iff {x : Except ε α} {a : α} : x.toOption = some a ↔ x = .ok a := by
  cases x <;> simp [Except.toOption]

theorem mapM_eq_ok_iff (f : α → Except ε β) (xs : List α) (ys : List β) :
    xs.mapM f = .ok ys ↔ List.Forall₂ (fun x y => f x = .ok y) xs ys := by
  induction xs generalizing ys with
  | nil =>
      rw [List.mapM_nil, List.forall₂_nil_left_iff]
      exact ⟨fun h => (Except.ok.inj h).symm, fun h => h ▸ rfl⟩
  | cons x xs ih =>
      rw [List.mapM_cons, List.forall₂_cons_left_iff]
      cases hx : f x with
      | error e => simp
      | ok y =>
          cases hxs : xs.mapM f with
          | error e =>
              have hnone : ∀ zs, ¬List.Forall₂ (fun x y => f x = .ok y) xs zs := by
                intro zs hzs
                have := (ih zs).mpr hzs
                rw [hxs] at this
                cases this
              simp [hnone]
          | ok zs =>
              have hzs := (ih zs).mp hxs
              constructor
              · intro h
                cases Except.ok.inj h
                exact ⟨y, zs, rfl, hzs, rfl⟩
              · rintro ⟨y', zs', hy, hzs', rfl⟩
                have := (ih zs').mpr hzs'
                rw [hxs] at this
                cases hy
                cases this
                rfl

theorem mapM_eq_error_iff (f : α → Except ε β) (xs : List α) (e : ε) :
    xs.mapM f = .error e ↔
      ∃ before x after, xs = before ++ x :: after ∧ (∀ b ∈ before, ∃ y, f b = .ok y) ∧
        f x = .error e := by
  induction xs with
  | nil => simp [pure, Except.pure]
  | cons x xs ih =>
      rw [List.mapM_cons]
      cases hx : f x with
      | error e' =>
          constructor
          · intro h
            cases Except.error.inj h
            exact ⟨[], x, xs, rfl, by simp, hx⟩
          · rintro ⟨before, z, after, hsplit, hbefore, hz⟩
            cases before with
            | nil =>
                cases hsplit
                rw [hx] at hz
                cases hz
                rfl
            | cons b before =>
                cases hsplit
                obtain ⟨y, hy⟩ := hbefore x List.mem_cons_self
                rw [hx] at hy
                cases hy
      | ok y =>
          have hbind : (xs.mapM f >>= fun ys => pure (y :: ys)) = .error e ↔
              xs.mapM f = .error e := by
            cases xs.mapM f <;> simp [pure, Except.pure]
          rw [ok_bind, hbind, ih]
          constructor
          · rintro ⟨before, z, after, rfl, hbefore, hz⟩
            refine ⟨x :: before, z, after, rfl, ?_, hz⟩
            intro b hb
            rcases List.mem_cons.mp hb with rfl | hb
            · exact ⟨y, hx⟩
            · exact hbefore b hb
          · rintro ⟨before, z, after, hsplit, hbefore, hz⟩
            cases before with
            | nil =>
                cases hsplit
                rw [hx] at hz
                cases hz
            | cons b before =>
                cases hsplit
                exact ⟨before, z, after, rfl, fun b hb => hbefore b (List.mem_cons_of_mem _ hb), hz⟩

theorem exists_of_mem_mapM {f : α → Except ε β} {xs : List α} {ys : List β}
    (h : xs.mapM f = .ok ys) {y : β} (hy : y ∈ ys) : ∃ x ∈ xs, f x = .ok y := by
  induction (mapM_eq_ok_iff f xs ys).mp h with
  | nil => cases hy
  | @cons x z xs ys hx hxs ih =>
      rcases List.mem_cons.mp hy with rfl | hy
      · exact ⟨x, List.mem_cons_self, hx⟩
      · obtain ⟨w, hw, hwy⟩ := ih ((mapM_eq_ok_iff f xs ys).mpr hxs) hy
        exact ⟨w, List.mem_cons_of_mem _ hw, hwy⟩

theorem map_eq_of_mapM {γ : Type} {f : α → Except ε β} {before : α → γ} {after : β → γ}
    (hf : ∀ x y, f x = .ok y → after y = before x) {xs : List α} {ys : List β}
    (h : xs.mapM f = .ok ys) : ys.map after = xs.map before := by
  induction (mapM_eq_ok_iff f xs ys).mp h with
  | nil => rfl
  | cons hx hxs ih =>
      rw [List.map_cons, List.map_cons, hf _ _ hx, ih ((mapM_eq_ok_iff f _ _).mpr hxs)]

theorem exists_mapM_eq_ok_iff (f : α → Except ε β) (xs : List α) :
    (∃ ys, xs.mapM f = .ok ys) ↔ ∀ x ∈ xs, ∃ y, f x = .ok y := by
  simp only [mapM_eq_ok_iff]
  induction xs with
  | nil => simp
  | cons x xs ih =>
      rw [List.forall_mem_cons, ← ih]
      constructor
      · rintro ⟨_, h⟩
        cases h with
        | cons hx hxs => exact ⟨⟨_, hx⟩, _, hxs⟩
      · rintro ⟨⟨y, hx⟩, ys, hxs⟩
        exact ⟨y :: ys, .cons hx hxs⟩

end SchemaScaffold.Traversal
