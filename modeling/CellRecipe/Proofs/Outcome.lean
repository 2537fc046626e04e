import Mathlib.Data.List.Forall2

/-!
# Outcomes of steps that may refuse

A recipe is put together by steps that may refuse, one after the other, and the first refusal is the
answer of the whole. The lemmas below read such an answer backwards: an answer of a sequence gives
the answers of its steps, and a refusal of a traversal gives the element that caused it together
with the proof that every element before it went through.

## Main results

* `bind_eq_ok`, `bind_eq_error`: the two answers of a sequence of two steps.
* `exists_mapM_eq_ok`, `mapM_eq_error`: the two answers of a traversal.
* `mapM_eq_ok`: the results of a traversal, one for each element and in their order.
* `Alike.bind`: sequences whose steps answer alike do so themselves.
* `Alike.eq_iff`: when answers that are alike are the same.
-/

namespace CellRecipe.Outcome

variable {ε δ α β : Type}

/-! ## One step after another -/

theorem bind_eq_ok {x : Except ε α} {f : α → Except ε β} {b : β} :
    x >>= f = .ok b ↔ ∃ a, x = .ok a ∧ f a = .ok b := by
  cases x with
  | error e =>
      show (Except.error e = .ok b) ↔ _
      simp
  | ok a =>
      show (f a = .ok b) ↔ _
      simp

theorem bind_eq_error {x : Except ε α} {f : α → Except ε β} {e : ε} :
    x >>= f = .error e ↔ x = .error e ∨ ∃ a, x = .ok a ∧ f a = .error e := by
  cases x with
  | error e' =>
      show (Except.error e' = .error e) ↔ _
      simp
  | ok a =>
      show (f a = .error e) ↔ _
      simp

theorem map_eq_ok {x : Except ε α} {f : α → β} {b : β} :
    x.map f = .ok b ↔ ∃ a, x = .ok a ∧ f a = b := by
  cases x <;> simp [Except.map]

theorem map_eq_error {x : Except ε α} {f : α → β} {e : ε} : x.map f = .error e ↔ x = .error e := by
  cases x <;> simp [Except.map]

/-- A step after a change of the result is a step that makes the change itself. -/
theorem map_then (x : Except ε α) (f : α → β) (g : β → Except ε δ) :
    x.map f >>= g = x >>= fun a => g (f a) := by
  cases x <;> rfl

theorem mapError_eq_ok {x : Except ε α} {f : ε → δ} {a : α} :
    x.mapError f = .ok a ↔ x = .ok a := by
  cases x with
  | error e =>
      show (Except.error (f e) = .ok a) ↔ _
      simp
  | ok b =>
      show (Except.ok b = .ok a) ↔ _
      simp

theorem mapError_eq_error {x : Except ε α} {f : ε → δ} {d : δ} :
    x.mapError f = .error d ↔ ∃ e, x = .error e ∧ f e = d := by
  cases x with
  | error e =>
      show (Except.error (f e) = .error d) ↔ _
      simp
  | ok b =>
      show (Except.ok b = .error d) ↔ _
      simp

/-! ## Traversals -/

/-- A traversal has a result exactly when every element has one. -/
theorem exists_mapM_eq_ok {f : α → Except ε β} {xs : List α} :
    (∃ ys, xs.mapM f = .ok ys) ↔ ∀ x ∈ xs, ∃ y, f x = .ok y := by
  induction xs with
  | nil => simp [pure, Except.pure]
  | cons x rest ih =>
      rw [List.forall_mem_cons, ← ih, List.mapM_cons]
      constructor
      · intro hx
        obtain ⟨ys, h⟩ := hx
        obtain ⟨y, hy, h⟩ := bind_eq_ok.1 h
        obtain ⟨tail, htail, -⟩ := bind_eq_ok.1 h
        exact ⟨⟨y, hy⟩, tail, htail⟩
      · intro hx
        obtain ⟨⟨y, hy⟩, tail, htail⟩ := hx
        exact ⟨y :: tail, bind_eq_ok.2 ⟨y, hy, bind_eq_ok.2 ⟨tail, htail, rfl⟩⟩⟩

/-- The results of a traversal are those of its elements, one by one. -/
theorem mapM_eq_ok {f : α → Except ε β} {xs : List α} {ys : List β} :
    xs.mapM f = .ok ys ↔ List.Forall₂ (fun x y => f x = .ok y) xs ys := by
  induction xs generalizing ys with
  | nil => cases ys <;> simp [pure, Except.pure]
  | cons x rest ih =>
      rw [List.mapM_cons, List.forall₂_cons_left_iff]
      constructor
      · intro h
        obtain ⟨y, hy, h⟩ := bind_eq_ok.1 h
        obtain ⟨tail, htail, h⟩ := bind_eq_ok.1 h
        exact ⟨y, tail, hy, ih.1 htail, (Except.ok.inj h).symm⟩
      · intro hx
        obtain ⟨y, tail, hy, htail, rfl⟩ := hx
        exact bind_eq_ok.2 ⟨y, hy, bind_eq_ok.2 ⟨tail, ih.2 htail, rfl⟩⟩

/-- Each element stands beside a result. -/
theorem exists_right_of_mem {R : α → β → Prop} {xs : List α} {ys : List β}
    (h : List.Forall₂ R xs ys) : ∀ x ∈ xs, ∃ y ∈ ys, R x y := by
  induction h with
  | nil => simp
  | @cons x y rest ys related _ ih =>
      rw [List.forall_mem_cons]
      refine ⟨⟨y, List.mem_cons_self, related⟩, ?_⟩
      intro z hz
      obtain ⟨w, hw, hzw⟩ := ih z hz
      exact ⟨w, List.mem_cons_of_mem y hw, hzw⟩

/-- Each result stands beside an element. -/
theorem exists_left_of_mem {R : α → β → Prop} {xs : List α} {ys : List β}
    (h : List.Forall₂ R xs ys) : ∀ y ∈ ys, ∃ x ∈ xs, R x y :=
  exists_right_of_mem h.flip

/-- A traversal refuses with the refusal of the first element that has no result. -/
theorem mapM_eq_error {f : α → Except ε β} {xs : List α} {e : ε} :
    xs.mapM f = .error e ↔ ∃ before x after, xs = before ++ x :: after ∧
      (∀ b ∈ before, ∃ y, f b = .ok y) ∧ f x = .error e := by
  induction xs with
  | nil => simp [pure, Except.pure]
  | cons x rest ih =>
      rw [List.mapM_cons]
      constructor
      · intro h
        rcases bind_eq_error.1 h with hx | ⟨y, hy, h⟩
        · exact ⟨[], x, rest, rfl, by simp, hx⟩
        · rcases bind_eq_error.1 h with htail | ⟨tail, -, h⟩
          · obtain ⟨before, z, after, rfl, hbefore, hz⟩ := ih.1 htail
            refine ⟨x :: before, z, after, rfl, ?_, hz⟩
            intro b hb
            rcases List.mem_cons.1 hb with rfl | hb
            · exact ⟨y, hy⟩
            · exact hbefore b hb
          · exact nomatch h
      · intro hyp
        obtain ⟨before, z, after, hsplit, hbefore, hz⟩ := hyp
        cases before with
        | nil =>
            obtain ⟨rfl, rfl⟩ := List.cons.inj hsplit
            exact bind_eq_error.2 (.inl hz)
        | cons b before =>
            obtain ⟨rfl, rfl⟩ := List.cons.inj hsplit
            obtain ⟨y, hy⟩ := hbefore x List.mem_cons_self
            have htail := ih.2 ⟨before, z, after, rfl,
              fun c hc => hbefore c (List.mem_cons_of_mem _ hc), hz⟩
            exact bind_eq_error.2 (.inr ⟨y, hy, bind_eq_error.2 (.inl htail)⟩)

/-! ## Two answers -/

/-- Two answers are alike when they are the same refusal, or results that are related. -/
inductive Alike (R : α → β → Prop) : Except ε α → Except ε β → Prop
  | refused (e : ε) : Alike R (.error e) (.error e)
  | served {a : α} {b : β} (related : R a b) : Alike R (.ok a) (.ok b)

theorem Alike.refl (x : Except ε α) : Alike (· = ·) x x := by
  cases x with
  | error e => exact .refused e
  | ok a => exact .served rfl

/-- Steps that answer alike, one after the other. -/
theorem Alike.bind {γ : Type} {R : α → β → Prop} {S : δ → γ → Prop} {x : Except ε α}
    {y : Except ε β} {f : α → Except ε δ} {g : β → Except ε γ} (h : Alike R x y)
    (next : ∀ a b, R a b → Alike S (f a) (g b)) : Alike S (x >>= f) (y >>= g) := by
  cases h with
  | refused e => exact .refused e
  | served related => exact next _ _ related

/-- The same step before steps that answer alike. -/
theorem Alike.bind_same {γ : Type} {S : δ → γ → Prop} (x : Except ε α) {f : α → Except ε δ}
    {g : α → Except ε γ} (next : ∀ a, Alike S (f a) (g a)) : Alike S (x >>= f) (x >>= g) :=
  (Alike.refl x).bind fun a _ h => h ▸ next a

/-- Answers that are alike are the same when they refuse, or else when their results are. -/
theorem Alike.eq_iff {R : α → α → Prop} {x y : Except ε α} (h : Alike R x y) {P : Prop}
    (same : ∀ a b, R a b → (a = b ↔ P)) : x = y ↔ (∃ e, y = .error e) ∨ P := by
  cases h with
  | refused e => simp
  | served related => simp [same _ _ related]

end CellRecipe.Outcome
