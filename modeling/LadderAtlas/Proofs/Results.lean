import Mathlib.Data.List.Forall2

/-! # Results of computations

What is known of the parts of a computation that may fail, from what is known of the whole. A list
is computed entry by entry, and the first entry that fails decides how the list fails.
-/

namespace LadderAtlas

variable {ε β γ δ : Type}

theorem exists_of_bind_eq_ok {x : Except ε β} {f : β → Except ε γ} {c : γ} (h : x >>= f = .ok c) :
    ∃ b, x = .ok b ∧ f b = .ok c := by
  cases x with
  | error e => cases h
  | ok b => exact ⟨b, rfl, h⟩

theorem exists_of_map_eq_ok {x : Except ε β} {f : β → γ} {c : γ} (h : x.map f = .ok c) :
    ∃ b, x = .ok b ∧ f b = c := by
  cases x with
  | error e => cases h
  | ok b => exact ⟨b, rfl, Except.ok.inj h⟩

theorem bind_of_eq_ok {x : Except ε β} {b : β} (h : x = .ok b) (f : β → Except ε γ) :
    x >>= f = f b := by
  rw [h]
  rfl

theorem map_eq_error_iff {x : Except ε β} {f : β → γ} {e : ε} :
    x.map f = .error e ↔ x = .error e := by
  cases x <;> simp [Except.map]

theorem bind_pure_eq_error_iff {x : Except ε β} {f : β → γ} {e : ε} :
    (do return f (← x)) = .error e ↔ x = .error e := by
  cases x <;> simp [bind, Except.bind, pure, Except.pure]

theorem exists_of_isOk (x : Except ε β) (h : x.isOk = true) : ∃ b, x = .ok b := by
  cases x with
  | error e => cases h
  | ok b => exact ⟨b, rfl⟩

theorem exists_of_toOption_map_eq_some {x : Except ε β} {f : β → γ} {c : γ}
    (h : (x.map f).toOption = some c) :
    ∃ b, x = .ok b ∧ f b = c := by
  cases x with
  | error e => cases h
  | ok b => exact ⟨b, rfl, Option.some.inj h⟩

theorem exists_mapM_eq_ok {f : β → Except ε γ} {xs : List β} (h : ∀ x ∈ xs, ∃ y, f x = .ok y) :
    ∃ ys, xs.mapM f = .ok ys := by
  induction xs with
  | nil => exact ⟨[], rfl⟩
  | cons x xs ih =>
      obtain ⟨y, hy⟩ := h x List.mem_cons_self
      obtain ⟨ys, hys⟩ := ih fun x member => h x (List.mem_cons_of_mem _ member)
      refine ⟨y :: ys, ?_⟩
      rw [List.mapM_cons, hy, hys]
      rfl

/-- What is computed of a list is computed of each of its members. -/
theorem forall₂_of_mapM_eq_ok {f : β → Except ε γ} {xs : List β} {ys : List γ}
    (h : xs.mapM f = .ok ys) : List.Forall₂ (fun x y => f x = .ok y) xs ys := by
  induction xs generalizing ys with
  | nil =>
      cases h
      exact .nil
  | cons x xs ih =>
      rw [List.mapM_cons] at h
      obtain ⟨y, hy, h⟩ := exists_of_bind_eq_ok h
      obtain ⟨rest, hrest, h⟩ := exists_of_bind_eq_ok h
      cases h
      exact .cons hy (ih hrest)

theorem mapM_congr {f g : β → Except ε γ} {xs : List β} (h : ∀ x ∈ xs, f x = g x) :
    xs.mapM f = xs.mapM g := by
  induction xs with
  | nil => rfl
  | cons x xs ih =>
      rw [List.mapM_cons, List.mapM_cons, h x List.mem_cons_self,
        ih fun y member => h y (List.mem_cons_of_mem x member)]

theorem mapM_eq_ok_map {f : β → Except ε γ} {g : β → γ} {xs : List β}
    (h : ∀ x ∈ xs, f x = .ok (g x)) :
    xs.mapM f = .ok (xs.map g) :=
  (mapM_congr h).trans List.mapM_pure

/-- What every result has in common with what it is computed from, the list of them has too. -/
theorem map_eq_of_forall₂ {R : β → γ → Prop} {xs : List β} {ys : List γ} (h : List.Forall₂ R xs ys)
    (before : β → δ) (after : γ → δ) (keeps : ∀ x y, R x y → after y = before x) :
    ys.map after = xs.map before := by
  induction h with
  | nil => rfl
  | cons first _ ih => rw [List.map_cons, List.map_cons, keeps _ _ first, ih]

theorem exists_mem_of_forall₂ {R : β → γ → Prop} {xs : List β} {ys : List γ}
    (h : List.Forall₂ R xs ys) {y : γ} (member : y ∈ ys) : ∃ x ∈ xs, R x y := by
  induction h with
  | nil => cases member
  | cons first _ ih =>
      rcases List.mem_cons.mp member with rfl | later
      · exact ⟨_, List.mem_cons_self, first⟩
      · obtain ⟨x, there, related⟩ := ih later
        exact ⟨x, List.mem_cons_of_mem _ there, related⟩

/-- Where every result is made from something else, the list of them is made from a list of that. -/
theorem exists_map_of_forall₂ {R : β → γ → Prop} (S : β → δ → Prop) (make : δ → γ) {xs : List β}
    {ys : List γ} (h : List.Forall₂ R xs ys)
    (each : ∀ x ∈ xs, ∀ y, R x y → ∃ z, S x z ∧ y = make z) :
    ∃ zs, List.Forall₂ S xs zs ∧ ys = zs.map make := by
  induction h with
  | nil => exact ⟨[], .nil, rfl⟩
  | cons first _ ih =>
      obtain ⟨z, made, rfl⟩ := each _ List.mem_cons_self _ first
      obtain ⟨zs, later, rfl⟩ := ih fun x member => each x (List.mem_cons_of_mem _ member)
      exact ⟨z :: zs, .cons made later, rfl⟩

/-- A list fails as its first failing entry does. -/
theorem mapM_eq_error_iff {f : β → Except ε γ} {xs : List β} {e : ε} :
    xs.mapM f = .error e ↔ ∃ before x after, xs = before ++ x :: after ∧
      (∀ y ∈ before, ∃ z, f y = .ok z) ∧ f x = .error e := by
  constructor
  · intro h
    induction xs with
    | nil => cases h
    | cons x xs ih =>
        rw [List.mapM_cons] at h
        cases first : f x with
        | error e' =>
            rw [first] at h
            cases h
            exact ⟨[], x, xs, rfl, by simp, first⟩
        | ok value =>
            rw [bind_of_eq_ok first] at h
            cases later : xs.mapM f with
            | error e' =>
                rw [later] at h
                cases h
                obtain ⟨before, y, after, rfl, computed, failed⟩ := ih later
                exact ⟨x :: before, y, after, rfl,
                  List.forall_mem_cons.mpr ⟨⟨value, first⟩, computed⟩, failed⟩
            | ok rest =>
                rw [later] at h
                cases h
  · rintro ⟨before, x, after, rfl, computed, failed⟩
    obtain ⟨values, earlier⟩ := exists_mapM_eq_ok computed
    rw [List.mapM_append, bind_of_eq_ok earlier, List.mapM_cons, failed]
    rfl

/-- Where each entry fails by a fault of its own, a list fails by the first fault there is. -/
theorem mapM_eq_error_iff_findSome? {f : β → Except ε γ} {fault? : β → Option ε}
    {xs : List β} {e : ε} (each : ∀ x ∈ xs, ∀ e, f x = .error e ↔ fault? x = some e) :
    xs.mapM f = .error e ↔ xs.findSome? fault? = some e := by
  have computed {x : β} (member : x ∈ xs) : (∃ z, f x = .ok z) ↔ fault? x = none := by
    cases result : f x with
    | error e' => simp [(each x member e').mp result]
    | ok z =>
        simp only [Except.ok.injEq, exists_eq', true_iff, Option.eq_none_iff_forall_ne_some]
        intro e' fault
        have failed := (each x member e').mpr fault
        rw [result] at failed
        cases failed
  rw [mapM_eq_error_iff, List.findSome?_eq_some_iff]
  refine exists_congr fun before => exists_congr fun x => exists_congr fun after =>
    and_congr_right fun split => ?_
  subst split
  rw [each x (by simp) e, and_comm]
  exact and_congr_right fun _ => forall_congr' fun y => forall_congr' fun member =>
    computed (by simp [member])

/-- A fold whose steps fail as their entries do by themselves fails as the list of them does. -/
theorem foldlM_eq_error_iff {f : γ → β → Except ε γ} {g : β → Except ε δ}
    (fails : ∀ c x e, f c x = .error e ↔ g x = .error e) {xs : List β} {c : γ} {e : ε} :
    xs.foldlM f c = .error e ↔ xs.mapM g = .error e := by
  induction xs generalizing c with
  | nil => simp [pure, Except.pure]
  | cons x xs ih =>
      rw [List.foldlM_cons, List.mapM_cons]
      cases first : g x with
      | error e' =>
          rw [(fails c x e').mpr first]
          simp [bind, Except.bind]
      | ok value =>
          cases step : f c x with
          | error e' =>
              have failed := (fails c x e').mp step
              rw [first] at failed
              cases failed
          | ok next =>
              refine ih.trans ?_
              cases xs.mapM g <;> simp [bind, Except.bind, pure, Except.pure]

end LadderAtlas
