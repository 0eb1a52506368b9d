/-
Rows of steps that may fail. A row succeeds if every step does; else the
first step that fails decides the error, and the steps after it are never
looked at. Both loops of the development, `mapM` over the parts of
something and `foldlM` along a state, are opened here once and for all, and
so is the question of what is left of them when less is told of an error.
-/
import Mathlib.Data.List.Forall2

namespace FaultStatus.FirstError

variable {ε α β σ : Type}

/-- A success that is looked at is a success. -/
theorem exists_of_map_eq_ok {f : α → β} {x : Except ε α} {b : β}
    (h : x.map f = .ok b) : ∃ a, x = .ok a ∧ f a = b := by
  cases x with
  | error e => cases h
  | ok a => exact ⟨a, rfl, Except.ok.inj h⟩

-- ==================================================== steps side by side

theorem mapM_eq_ok_iff {f : α → Except ε β} {l : List α} {bs : List β} :
    l.mapM f = .ok bs ↔ List.Forall₂ (fun a b => f a = .ok b) l bs := by
  induction l generalizing bs with
  | nil =>
    rw [List.mapM_nil, List.forall₂_nil_left_iff]
    refine ⟨fun h => ?_, fun h => ?_⟩
    · cases h
      rfl
    · rw [h]
      rfl
  | cons a l ih =>
    rw [List.mapM_cons, List.forall₂_cons_left_iff]
    cases ha : f a with
    | error e =>
      refine ⟨fun h => ?_, fun ⟨b, rest, hb, _, _⟩ => ?_⟩
      · cases h
      · cases hb
    | ok b =>
      cases hl : l.mapM f with
      | error e =>
        refine ⟨fun h => ?_, fun ⟨b', rest, _, hrest, _⟩ => ?_⟩
        · cases h
        · rw [ih.2 hrest] at hl
          cases hl
      | ok rest =>
        refine ⟨fun h => ?_, fun ⟨b', rest', hb, hrest, hbs⟩ => ?_⟩
        · cases h
          exact ⟨b, rest, rfl, ih.1 hl, rfl⟩
        · cases hb
          have hsame := ih.2 hrest
          rw [hl] at hsame
          cases hsame
          rw [hbs]
          rfl

/-- What each step has to succeed for and comes to, a whole row has to
succeed for and comes to. -/
theorem mapM_eq_ok_imp {f : α → Except ε β} {P : α → Prop} {g : α → β}
    (hstep : ∀ a b, f a = .ok b → P a ∧ b = g a) {l : List α} {bs : List β}
    (h : l.mapM f = .ok bs) : (∀ a ∈ l, P a) ∧ bs = l.map g := by
  rw [mapM_eq_ok_iff] at h
  induction h with
  | nil => exact ⟨fun a hmem => absurd hmem List.not_mem_nil, rfl⟩
  | cons hfirst _ ih =>
    obtain ⟨hP, hg⟩ := hstep _ _ hfirst
    refine ⟨fun a hmem => ?_, ?_⟩
    · rcases List.mem_cons.1 hmem with heq | hmem
      · rwa [heq]
      · exact ih.1 a hmem
    · rw [hg, ih.2, List.map_cons]

/-- A row of independent steps fails as the first of them that fails. -/
theorem mapM_eq_error_iff {f : α → Except ε β} {l : List α} {e : ε} :
    l.mapM f = .error e ↔
      ∃ before a after, l = before ++ a :: after
        ∧ (∀ x ∈ before, ∃ b, f x = .ok b) ∧ f a = .error e := by
  induction l with
  | nil =>
    rw [List.mapM_nil]
    refine ⟨fun h => ?_, fun ⟨before, a, after, h, _, _⟩ => ?_⟩
    · cases h
    · cases before <;> cases h
  | cons a l ih =>
    rw [List.mapM_cons]
    cases ha : f a with
    | error e' =>
      refine ⟨fun h => ?_, fun ⟨before, x, after, hl, hbefore, hx⟩ => ?_⟩
      · cases h
        exact ⟨[], a, l, rfl, fun x hx => absurd hx List.not_mem_nil, ha⟩
      · cases before with
        | nil =>
          cases hl
          rw [ha] at hx
          cases hx
          rfl
        | cons y before =>
          cases hl
          obtain ⟨b, hb⟩ := hbefore a List.mem_cons_self
          rw [ha] at hb
          cases hb
    | ok b =>
      have hstep : (Except.ok b >>= fun b => do
          let bs ← l.mapM f
          pure (b :: bs)) = .error e ↔ l.mapM f = .error e := by
        cases hl : l.mapM f with
        | error e' =>
          refine ⟨fun h => ?_, fun h => ?_⟩ <;>
          · cases h
            rfl
        | ok bs => refine ⟨fun h => ?_, fun h => ?_⟩ <;> cases h
      rw [hstep, ih]
      refine ⟨fun ⟨before, x, after, hl, hbefore, hx⟩ => ?_,
        fun ⟨before, x, after, hl, hbefore, hx⟩ => ?_⟩
      · refine ⟨a :: before, x, after, ?_, fun y hy => ?_, hx⟩
        · rw [hl, List.cons_append]
        · rcases List.mem_cons.1 hy with heq | hy
          · exact ⟨b, heq ▸ ha⟩
          · exact hbefore y hy
      · cases before with
        | nil =>
          cases hl
          rw [ha] at hx
          cases hx
        | cons y before =>
          cases hl
          exact ⟨before, x, after, rfl,
            fun z hz => hbefore z (List.mem_cons_of_mem _ hz), hx⟩

-- =================================================== steps along a state

/-- Steps along a state fail as the first one that fails in the state that
the ones before it lead to. -/
theorem foldlM_eq_error_iff {f : σ → α → Except ε σ} {l : List α} {s : σ}
    {e : ε} :
    l.foldlM f s = .error e ↔
      ∃ before a after s', l = before ++ a :: after
        ∧ before.foldlM f s = .ok s' ∧ f s' a = .error e := by
  induction l generalizing s with
  | nil =>
    rw [List.foldlM_nil]
    refine ⟨fun h => ?_, fun ⟨before, a, after, s', h, _, _⟩ => ?_⟩
    · cases h
    · cases before <;> cases h
  | cons a l ih =>
    rw [List.foldlM_cons]
    cases ha : f s a with
    | error e' =>
      refine ⟨fun h => ?_, fun ⟨before, x, after, s', hl, hbefore, hx⟩ => ?_⟩
      · cases h
        exact ⟨[], a, l, s, rfl, rfl, ha⟩
      · cases before with
        | nil =>
          cases hl
          cases hbefore
          rw [ha] at hx
          cases hx
          rfl
        | cons y before =>
          cases hl
          rw [List.foldlM_cons, ha] at hbefore
          cases hbefore
    | ok s₁ =>
      show l.foldlM f s₁ = .error e ↔ _
      rw [ih]
      refine ⟨fun ⟨before, x, after, s', hl, hbefore, hx⟩ => ?_,
        fun ⟨before, x, after, s', hl, hbefore, hx⟩ => ?_⟩
      · refine ⟨a :: before, x, after, s', ?_, ?_, hx⟩
        · rw [hl, List.cons_append]
        · rw [List.foldlM_cons, ha]
          exact hbefore
      · cases before with
        | nil =>
          cases hl
          cases hbefore
          rw [ha] at hx
          cases hx
        | cons y before =>
          cases hl
          rw [List.foldlM_cons, ha] at hbefore
          exact ⟨before, x, after, s', rfl, hbefore, hx⟩

-- ==================================================== errors told shorter

section Retold

variable {ε' : Type} {tell : ε → ε'}

theorem mapError_eq_ok_iff (tell : ε → ε') {x : Except ε α} {a : α} :
    x.mapError tell = .ok a ↔ x = .ok a := by
  cases x with
  | error e => exact ⟨fun h => (by cases h), fun h => (by cases h)⟩
  | ok a' =>
    refine ⟨fun h => ?_, fun h => ?_⟩ <;> exact congrArg _ (Except.ok.inj h)

theorem mapError_eq_error_iff {x : Except ε α} {e' : ε'} :
    x.mapError tell = .error e' ↔ ∃ e, x = .error e ∧ tell e = e' := by
  cases x with
  | error e =>
    refine ⟨fun h => ⟨e, rfl, Except.error.inj h⟩, fun ⟨_, h, htell⟩ => ?_⟩
    cases h
    exact congrArg Except.error htell
  | ok a => exact ⟨fun h => (by cases h), fun ⟨_, h, _⟩ => (by cases h)⟩

theorem mapError_bind (x : Except ε α) (f : α → Except ε β) :
    (x >>= f).mapError tell
      = x.mapError tell >>= fun a => (f a).mapError tell := by
  cases x <;> rfl

theorem mapError_map (x : Except ε α) (f : α → β) :
    (x.map f).mapError tell = (x.mapError tell).map f := by
  cases x <;> rfl

/-- Less is told of a row of steps if less is told of each. -/
theorem mapError_mapM (l : List α) (f : α → Except ε β) :
    (l.mapM f).mapError tell = l.mapM fun a => (f a).mapError tell := by
  induction l with
  | nil => rfl
  | cons a l ih =>
    rw [List.mapM_cons, List.mapM_cons, mapError_bind, ← ih]
    congr 1
    funext b
    rw [mapError_bind]
    rfl

theorem mapError_foldlM (l : List α) (f : σ → α → Except ε σ) (s : σ) :
    (l.foldlM f s).mapError tell
      = l.foldlM (fun s a => (f s a).mapError tell) s := by
  induction l generalizing s with
  | nil => rfl
  | cons a l ih =>
    rw [List.foldlM_cons, List.foldlM_cons, mapError_bind]
    congr 1
    funext s'
    exact ih s'

end Retold

end FaultStatus.FirstError
