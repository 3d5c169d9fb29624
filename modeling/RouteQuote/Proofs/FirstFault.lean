import Mathlib.Data.List.Forall2

namespace RouteQuote

theorem Except.bind_eq_ok {x : Except ε α} {next : α → Except ε β} {b : β} :
    x >>= next = .ok b ↔ ∃ a, x = .ok a ∧ next a = .ok b := by
  cases x with
  | error e => simp [bind, Except.bind]
  | ok a => simp [bind, Except.bind]

theorem Except.bind_eq_error {x : Except ε α} {next : α → Except ε β} {e : ε} :
    x >>= next = .error e ↔ x = .error e ∨ ∃ a, x = .ok a ∧ next a = .error e := by
  cases x with
  | error fault => simp [bind, Except.bind]
  | ok a => simp [bind, Except.bind]

theorem Except.exists_ok_iff {x : Except ε α} : (∃ a, x = .ok a) ↔ ∀ e, x ≠ .error e := by
  cases x with
  | error e => simp
  | ok a => simp

-- The fault of the first item that has one.
def FirstFault (fault : α → ε → Prop) (items : List α) (e : ε) : Prop :=
  ∃ before item after, items = before ++ item :: after ∧ fault item e ∧ ∀ earlier ∈ before, ∀ other, ¬ fault earlier other

section

variable {fault : α → ε → Prop} {items : List α} {item : α} {e : ε}

theorem firstFault_nil : ¬ FirstFault fault [] e := by
  rintro ⟨before, item, after, parted, -⟩
  cases before <;> cases parted

theorem firstFault_cons : FirstFault fault (item :: items) e ↔
    fault item e ∨ (∀ other, ¬ fault item other) ∧ FirstFault fault items e := by
  constructor
  · rintro ⟨before, first, after, parted, faulty, sound⟩
    cases before with
    | nil =>
      cases parted
      exact .inl faulty
    | cons head before =>
      cases parted
      obtain ⟨headSound, sound⟩ := List.forall_mem_cons.mp sound
      exact .inr ⟨headSound, before, first, after, rfl, faulty, sound⟩
  · rintro (faulty | ⟨headSound, before, first, after, rfl, faulty, sound⟩)
    · exact ⟨[], item, items, rfl, faulty, nofun⟩
    · exact ⟨item :: before, first, after, rfl, faulty, List.forall_mem_cons.mpr ⟨headSound, sound⟩⟩

theorem FirstFault.exists (first : FirstFault fault items e) : ∃ item ∈ items, fault item e := by
  obtain ⟨before, item, after, rfl, faulty, -⟩ := first
  exact ⟨item, by simp, faulty⟩

-- Where no fault is the first one, there is none.
theorem sound_iff : (∀ e, ¬ FirstFault fault items e) ↔ ∀ item ∈ items, ∀ e, ¬ fault item e := by
  constructor
  · intro sound
    induction items with
    | nil => nofun
    | cons item items ih =>
      have head : ∀ e, ¬ fault item e := fun e faulty => sound e (firstFault_cons.mpr (.inl faulty))
      exact List.forall_mem_cons.mpr ⟨head, ih fun e first => sound e (firstFault_cons.mpr (.inr ⟨head, first⟩))⟩
  · intro sound e first
    obtain ⟨item, member, faulty⟩ := first.exists
    exact sound item member e faulty

theorem FirstFault.congr {other : α → ε → Prop} (same : ∀ item ∈ items, ∀ e, fault item e ↔ other item e) :
    FirstFault fault items e ↔ FirstFault other items e := by
  induction items with
  | nil => exact iff_of_false firstFault_nil firstFault_nil
  | cons item items ih =>
    obtain ⟨head, rest⟩ := List.forall_mem_cons.mp same
    rw [firstFault_cons, firstFault_cons, ih rest, head e, forall_congr' fun fault => not_congr (head fault)]

end

section

variable {f : α → Except ε β} {items : List α} {e : ε}

theorem mapM_eq_ok {values : List β} :
    items.mapM f = .ok values ↔ List.Forall₂ (fun item value => f item = .ok value) items values := by
  induction items generalizing values with
  | nil =>
    rw [List.mapM_nil, List.forall₂_nil_left_iff]
    exact ⟨fun same => (Except.ok.inj same).symm, fun same => congrArg Except.ok same.symm⟩
  | cons item items ih =>
    rw [List.mapM_cons, Except.bind_eq_ok, List.forall₂_cons_left_iff]
    constructor
    · rintro ⟨value, first, rest⟩
      obtain ⟨others, passed, same⟩ := Except.bind_eq_ok.mp rest
      exact ⟨value, others, first, ih.mp passed, (Except.ok.inj same).symm⟩
    · rintro ⟨value, others, first, passed, rfl⟩
      exact ⟨value, first, Except.bind_eq_ok.mpr ⟨others, ih.mpr passed, rfl⟩⟩

theorem mapM_eq_error : items.mapM f = .error e ↔ FirstFault (fun item e => f item = .error e) items e := by
  induction items with
  | nil => exact iff_of_false nofun firstFault_nil
  | cons item items ih =>
    rw [List.mapM_cons, Except.bind_eq_error, firstFault_cons, ← ih]
    refine or_congr_right ⟨?_, ?_⟩
    · rintro ⟨value, first, rest⟩
      have sound : ∀ other, ¬ f item = .error other := fun other said => nomatch first.symm.trans said
      rcases Except.bind_eq_error.mp rest with failed | ⟨others, passed, same⟩
      · exact ⟨sound, failed⟩
      · cases same
    · rintro ⟨sound, failed⟩
      cases first : f item with
      | error other => exact absurd first (sound other)
      | ok value => exact ⟨value, rfl, Except.bind_eq_error.mpr (.inl failed)⟩

theorem mapM_congr {g : α → Except ε β} (same : ∀ item ∈ items, f item = g item) : items.mapM f = items.mapM g := by
  induction items with
  | nil => rfl
  | cons item items ih =>
    obtain ⟨head, rest⟩ := List.forall_mem_cons.mp same
    rw [List.mapM_cons, List.mapM_cons, head, ih rest]

end

section

variable {step : σ → α → Except ε σ} {fault : α → ε → Prop} {items : List α} {s after : σ}

end

end RouteQuote
