import Mathlib.Data.List.Forall2
/-!
# Work done item by item

A list that is mapped with a step that can fail either has a result for each item, in the order of
the items, or fails as one of the items does. A step that follows another has a result exactly if
both do.
-/

namespace SyntheticRows

variable {α β ε : Type}

theorem bind_eq_ok_iff {step : Except ε α} {next : α → Except ε β} {result : β} :
    step >>= next = .ok result ↔ ∃ value, step = .ok value ∧ next value = .ok result := by
  cases step with
  | error cause =>
      refine ⟨fun h => ?_, ?_⟩
      · cases h
      · rintro ⟨value, h, _⟩
        cases h
  | ok value =>
      refine ⟨fun h => ⟨value, rfl, h⟩, ?_⟩
      rintro ⟨_, ⟨⟩, h⟩
      exact h

theorem map_eq_ok_iff {step : Except ε α} {f : α → β} {result : β} :
    f <$> step = .ok result ↔ ∃ value, step = .ok value ∧ f value = result := by
  cases step with
  | error cause => simp [Functor.map, Except.map]
  | ok value => simp [Functor.map, Except.map]

/-- Where each item gives a result there is a result for each, else some item fails. -/
theorem mapM_eq_ok_or_error (f : α → Except ε β) (items : List α) :
    (∃ results, items.mapM f = .ok results ∧
      List.Forall₂ (fun item result => f item = .ok result) items results) ∨
    ∃ cause, items.mapM f = .error cause ∧ ∃ item ∈ items, f item = .error cause := by
  induction items with
  | nil => exact .inl ⟨[], rfl, .nil⟩
  | cons item items ih =>
      rw [List.mapM_cons]
      cases hitem : f item with
      | error cause => exact .inr ⟨cause, rfl, item, List.mem_cons_self, hitem⟩
      | ok result =>
          rcases ih with ⟨results, hresults, hall⟩ | ⟨cause, hcause, other, hmem, hother⟩
          · rw [hresults]
            exact .inl ⟨result :: results, rfl, .cons hitem hall⟩
          · rw [hcause]
            exact .inr ⟨cause, rfl, other, List.mem_cons_of_mem _ hmem, hother⟩

theorem forall₂_of_mapM_eq_ok {f : α → Except ε β} {items : List α} {results : List β}
    (h : items.mapM f = .ok results) :
    List.Forall₂ (fun item result => f item = .ok result) items results := by
  rcases mapM_eq_ok_or_error f items with ⟨results', hresults, hall⟩ | ⟨cause, hcause, _⟩
  · obtain rfl := Except.ok.inj (h.symm.trans hresults)
    exact hall
  · rw [hcause] at h
    cases h

theorem mapM_eq_ok_iff {f : α → Except ε β} {items : List α} {results : List β} :
    items.mapM f = .ok results ↔
      List.Forall₂ (fun item result => f item = .ok result) items results := by
  refine ⟨forall₂_of_mapM_eq_ok, fun h => ?_⟩
  induction h with
  | nil => rfl
  | cons hitem _ ih =>
      rw [List.mapM_cons, hitem, ih]
      rfl

/-- Steps with the same outcomes item by item have the same outcome together. -/
theorem mapM_congr {α' : Type} {f : α → Except ε β} {f' : α' → Except ε β} {items : List α}
    {items' : List α'} (h : List.Forall₂ (fun item item' => f item = f' item') items items') :
    items.mapM f = items'.mapM f' := by
  induction h with
  | nil => rfl
  | cons hfirst _ ih => rw [List.mapM_cons, List.mapM_cons, hfirst, ih]

/-- Outcomes that look alike are the same failure or results that look alike. -/
theorem error_or_ok_of_map_eq_map {α' γ : Type} {view : α → γ} {view' : α' → γ}
    {outcome : Except ε α} {outcome' : Except ε α'} (h : outcome.map view = outcome'.map view') :
    (∃ cause, outcome = .error cause ∧ outcome' = .error cause) ∨
      ∃ result result', outcome = .ok result ∧ outcome' = .ok result' ∧
        view result = view' result' := by
  cases outcome with
  | error cause =>
      cases outcome' with
      | error cause' => exact .inl ⟨cause, rfl, congrArg Except.error (Except.error.inj h).symm⟩
      | ok result' => cases h
  | ok result =>
      cases outcome' with
      | error cause' => cases h
      | ok result' => exact .inr ⟨result, result', rfl, rfl, Except.ok.inj h⟩

/-- Steps that look alike item by item have outcomes that look alike. -/
theorem map_mapM_congr {α' γ : Type} {f : α → Except ε β} {f' : α' → Except ε β} {view : β → γ}
    {items : List α} {items' : List α'}
    (h : List.Forall₂ (fun item item' => (f item).map view = (f' item').map view) items items') :
    (items.mapM f).map (List.map view) = (items'.mapM f').map (List.map view) := by
  induction h with
  | nil => rfl
  | @cons item item' items items' hitem _ ih =>
      rw [List.mapM_cons, List.mapM_cons]
      rcases error_or_ok_of_map_eq_map hitem with
        ⟨cause, hf, hf'⟩ | ⟨result, result', hf, hf', hview⟩
      · rw [hf, hf']
        rfl
      rw [hf, hf']
      rcases error_or_ok_of_map_eq_map ih with
        ⟨cause, hs, hs'⟩ | ⟨results, results', hs, hs', hviews⟩
      · rw [hs, hs']
        rfl
      · rw [hs, hs']
        exact congrArg Except.ok (congrArg₂ List.cons hview hviews)

/-- Lists with the same images, item by item. -/
theorem forall₂_of_map_eq_map {α' : Type} {f : α → β} {f' : α' → β} {items : List α}
    {items' : List α'} (h : items.map f = items'.map f') :
    List.Forall₂ (fun item item' => f item = f' item') items items' := by
  have hsame : List.Forall₂ (· = ·) (items.map f) (items'.map f') := by
    rw [List.forall₂_eq_eq_eq]
    exact h
  exact List.forall₂_map_right_iff.mp (List.forall₂_map_left_iff.mp hsame)

theorem map_eq_map_of_forall₂ {α' : Type} {f : α → β} {f' : α' → β} {items : List α}
    {items' : List α'} (h : List.Forall₂ (fun item item' => f item = f' item') items items') :
    items.map f = items'.map f' := by
  induction h with
  | nil => rfl
  | cons hfirst _ ih => rw [List.map_cons, List.map_cons, hfirst, ih]

/-- What is related to the same items in between is related by the way over them. -/
theorem forall₂_trans {γ : Type} {R : α → β → Prop} {S : β → γ → Prop} {T : α → γ → Prop}
    {items : List α} {between : List β} {results : List γ} (h : List.Forall₂ R items between)
    (h' : List.Forall₂ S between results)
    (htrans : ∀ item middle result, R item middle → S middle result → T item result) :
    List.Forall₂ T items results := by
  induction h generalizing results with
  | nil =>
      cases h'
      exact .nil
  | cons hfirst _ ih =>
      cases h' with
      | cons hfirst' hrest' => exact .cons (htrans _ _ _ hfirst hfirst') (ih hrest')

/-- Each result stands beside an item that it belongs to. -/
theorem exists_mem_of_forall₂ {R : α → β → Prop} {items : List α} {results : List β}
    (h : List.Forall₂ R items results) {result : β} (hmem : result ∈ results) :
    ∃ item ∈ items, R item result := by
  induction h with
  | nil => cases hmem
  | @cons first other items results hfirst _ ih =>
      rcases List.mem_cons.mp hmem with rfl | hmem
      · exact ⟨first, List.mem_cons_self, hfirst⟩
      · obtain ⟨item, hitem, hrelated⟩ := ih hmem
        exact ⟨item, List.mem_cons_of_mem _ hitem, hrelated⟩

end SyntheticRows
