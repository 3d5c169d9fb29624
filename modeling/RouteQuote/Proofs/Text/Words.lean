import RouteQuote.Text.Basic

namespace RouteQuote.Text

theorem dropWhile_visible {s : List Char} (visible : ∀ c ∈ s, isBlank c = false) : s.dropWhile isBlank = s := by
  cases s with
  | nil => rfl
  | cons c s => rw [List.dropWhile_cons_of_neg (by simp [visible c])]

theorem trim_visible {s : List Char} (visible : ∀ c ∈ s, isBlank c = false) : trim s = s := by
  unfold trim
  rw [dropWhile_visible visible, dropWhile_visible (by simpa using visible), List.reverse_reverse]

-- What is left of the blanks behind the text depends on whether there is a text to stop at.
theorem dropWhile_followed {s after : List Char} (visible : ∀ c ∈ s, isBlank c = false)
    (blank : ∀ c ∈ after, isBlank c = true) : ∃ rest, (s ++ after).dropWhile isBlank = s ++ rest ∧
      ∀ c ∈ rest, isBlank c = true := by
  cases s with
  | nil =>
    have gone : (after ++ []).dropWhile isBlank = [] := List.dropWhile_append_of_pos blank
    exact ⟨[], by simpa using gone, nofun⟩
  | cons c s =>
    have stays : (c :: s ++ after).dropWhile isBlank = c :: s ++ after := by
      rw [List.cons_append, List.dropWhile_cons_of_neg (by simp [visible c])]
    exact ⟨after, stays, blank⟩

theorem trim_between {before s after : List Char} (blankBefore : ∀ c ∈ before, isBlank c = true)
    (visible : ∀ c ∈ s, isBlank c = false) (blankAfter : ∀ c ∈ after, isBlank c = true) :
    trim (before ++ (s ++ after)) = s := by
  obtain ⟨rest, followed, blank⟩ := dropWhile_followed visible blankAfter
  unfold trim
  rw [List.dropWhile_append_of_pos blankBefore, followed, List.reverse_append,
    List.dropWhile_append_of_pos (by simpa using blank), dropWhile_visible (by simpa using visible),
    List.reverse_reverse]

variable {separates : Char → Bool} {c d : Char} {s t gap word rest : List Char} {words : List (List Char)}

-- What follows a word: nothing, or a separator.
def Stops (separates : Char → Bool) (rest : List Char) : Prop := ∀ c, rest.head? = some c → separates c = true

-- The runs of a text: separators, a word that goes on as far as it can, and the runs of what follows.
inductive Runs (separates : Char → Bool) : List Char → List (List Char) → Prop where
  | none {gap : List Char} (gaps : ∀ c ∈ gap, separates c = true) : Runs separates gap []
  | word {gap word rest : List Char} {words : List (List Char)} (gaps : ∀ c ∈ gap, separates c = true)
      (some : word ≠ []) (whole : ∀ c ∈ word, separates c = false) (stops : Stops separates rest)
      (others : Runs separates rest words) : Runs separates (gap ++ (word ++ rest)) (word :: words)

-- One run, wherever it stands: characters that do not separate, between separators or ends of the text.
structure IsRun (separates : Char → Bool) (s before word after : List Char) : Prop where
  parted : s = before ++ (word ++ after)
  some : word ≠ []
  whole : ∀ c ∈ word, separates c = false
  starts : ∀ c, before.getLast? = .some c → separates c = true
  stops : Stops separates after

theorem stops_nil : Stops separates [] := nofun

theorem stops_cons : Stops separates (c :: s) ↔ separates c = true := by simp [Stops]

theorem Stops.append (stops : Stops separates s) (later : Stops separates t) : Stops separates (s ++ t) := by
  cases s with
  | nil => exact later
  | cons c s => simpa [Stops] using stops

theorem wordsBy_separator (gap : separates c = true) : wordsBy separates (c :: s) = wordsBy separates s := by
  conv => lhs; unfold wordsBy
  simp [gap]

theorem wordsBy_single (whole : separates c = false) (stops : Stops separates rest) :
    wordsBy separates (c :: rest) = [c] :: wordsBy separates rest := by
  conv => lhs; unfold wordsBy
  rw [if_neg (by simp [whole])]
  cases rest with
  | nil => rfl
  | cons d rest =>
    have stop := stops_cons.mp stops
    cases cut : wordsBy separates (d :: rest) <;> simp [stop]

theorem wordsBy_longer (whole : separates c = false) (next : separates d = false)
    (cut : wordsBy separates (d :: s) = word :: words) : wordsBy separates (c :: d :: s) = (c :: word) :: words := by
  conv => lhs; unfold wordsBy
  simp [whole, next, cut]

theorem wordsBy_gap (gaps : ∀ c ∈ gap, separates c = true) : wordsBy separates (gap ++ s) = wordsBy separates s := by
  induction gap with
  | nil => rfl
  | cons c gap ih =>
    obtain ⟨first, others⟩ := List.forall_mem_cons.mp gaps
    rw [List.cons_append, wordsBy_separator first, ih others]

theorem wordsBy_gaps (gaps : ∀ c ∈ gap, separates c = true) : wordsBy separates gap = [] := by
  simpa [wordsBy] using wordsBy_gap (s := []) gaps

theorem wordsBy_word (some : word ≠ []) (whole : ∀ c ∈ word, separates c = false) (stops : Stops separates rest) :
    wordsBy separates (word ++ rest) = word :: wordsBy separates rest := by
  induction word with
  | nil => exact absurd rfl some
  | cons c word ih =>
    obtain ⟨first, others⟩ := List.forall_mem_cons.mp whole
    cases word with
    | nil => exact wordsBy_single first stops
    | cons d word =>
      have next : separates d = false := others d List.mem_cons_self
      exact wordsBy_longer first next (ih (List.cons_ne_nil _ _) others)

theorem Runs.indent (gap : separates c = true) (runs : Runs separates s words) : Runs separates (c :: s) words := by
  cases runs with
  | none gaps => exact .none (List.forall_mem_cons.mpr ⟨gap, gaps⟩)
  | word gaps some whole stops others =>
    exact .word (List.forall_mem_cons.mpr ⟨gap, gaps⟩) some whole stops others

theorem Runs.front (some : word ≠ []) (whole : ∀ c ∈ word, separates c = false) (stops : Stops separates rest)
    (others : Runs separates rest words) : Runs separates (word ++ rest) (word :: words) :=
  @Runs.word _ [] _ _ _ nofun some whole stops others

-- A text that begins with a word, and the runs of it when the word is made longer.
theorem Runs.longer (whole : separates c = false) (next : separates d = false)
    (runs : Runs separates (d :: s) (word :: words)) : Runs separates (c :: d :: s) ((c :: word) :: words) := by
  generalize front : d :: s = text at runs
  cases runs with
  | @word gap _ rest _ gaps some each stops others =>
    cases gap with
    | nil => exact .front (List.cons_ne_nil _ _) (List.forall_mem_cons.mpr ⟨whole, each⟩) stops others
    | cons e gap =>
      cases front
      have gap : separates d = true := gaps d List.mem_cons_self
      simp [gap] at next

theorem Runs.wordless (runs : Runs separates s []) : ∀ c ∈ s, separates c = true := by
  generalize empty : ([] : List (List Char)) = words at runs
  cases runs with
  | none gaps => exact gaps
  | word => cases empty

theorem runs_wordsBy (separates : Char → Bool) (s : List Char) : Runs separates s (wordsBy separates s) := by
  induction s with
  | nil => exact .none nofun
  | cons c s ih =>
    cases whole : separates c with
    | true =>
      rw [wordsBy_separator whole]
      exact ih.indent whole
    | false =>
      have single : ∀ e ∈ [c], separates e = false := by simpa using whole
      by_cases stops : Stops separates s
      · rw [wordsBy_single whole stops]
        exact ih.front (List.cons_ne_nil _ _) single stops
      · cases s with
        | nil => exact absurd stops_nil stops
        | cons d s =>
          have next : separates d = false := by simpa [stops_cons] using stops
          -- A text that begins with a word is not without one.
          cases cut : wordsBy separates (d :: s) with
          | nil =>
            have gap := (cut ▸ ih).wordless d List.mem_cons_self
            simp [gap] at next
          | cons word words =>
            rw [cut] at ih
            rw [wordsBy_longer whole next cut]
            exact ih.longer whole next

theorem Runs.eq_wordsBy (runs : Runs separates s words) : words = wordsBy separates s := by
  induction runs with
  | none gaps => rw [wordsBy_gaps gaps]
  | word gaps some whole stops others ih => rw [wordsBy_gap gaps, wordsBy_word some whole stops, ← ih]

theorem Runs.append_separator (runs : Runs separates s words) (gap : separates c = true) (t : List Char) :
    wordsBy separates (s ++ c :: t) = words ++ wordsBy separates t := by
  induction runs with
  | none gaps => rw [wordsBy_gap gaps, wordsBy_separator gap, List.nil_append]
  | @word space word rest words gaps some whole stops others ih =>
    have later : Stops separates (rest ++ c :: t) := stops.append (stops_cons.mpr gap)
    have assoc : space ++ (word ++ rest) ++ c :: t = space ++ (word ++ (rest ++ c :: t)) := by simp
    rw [assoc, wordsBy_gap gaps, wordsBy_word some whole later, ih, List.cons_append]

theorem wordsBy_append_separator (gap : separates c = true) (s t : List Char) :
    wordsBy separates (s ++ c :: t) = wordsBy separates s ++ wordsBy separates t :=
  (runs_wordsBy separates s).append_separator gap t

theorem wordsBy_gap_behind (gaps : ∀ c ∈ gap, separates c = true) (s : List Char) :
    wordsBy separates (s ++ gap) = wordsBy separates s := by
  cases gap with
  | nil => rw [List.append_nil]
  | cons c gap =>
    obtain ⟨first, others⟩ := List.forall_mem_cons.mp gaps
    rw [wordsBy_append_separator first, wordsBy_gaps others, List.append_nil]

theorem IsRun.mem {before after : List Char} (run : IsRun separates s before word after) :
    word ∈ wordsBy separates s := by
  obtain ⟨rfl, some, whole, starts, stops⟩ := run
  have here : word ∈ wordsBy separates (word ++ after) := by
    rw [wordsBy_word some whole stops]
    exact List.mem_cons_self
  rcases List.eq_nil_or_concat before with rfl | ⟨front, c, rfl⟩
  · exact here
  · have gap : separates c = true := starts c (by simp)
    have assoc : front.concat c ++ (word ++ after) = front ++ c :: (word ++ after) := by simp
    rw [assoc, wordsBy_append_separator gap]
    exact List.mem_append_right _ here

-- By induction on the runs: a run further back stays one, since a separator stands in front of it there.
theorem Runs.isRun (runs : Runs separates s words) (member : word ∈ words) :
    ∃ before after, IsRun separates s before word after := by
  induction runs with
  | none => cases member
  | @word gap first rest words gaps some whole stops others ih =>
    rcases List.mem_cons.mp member with rfl | later
    · exact ⟨gap, rest, rfl, some, whole, fun c last => gaps c (List.mem_of_getLast? last), stops⟩
    · obtain ⟨before, after, rfl, filled, each, starts, ends⟩ := ih later
      refine ⟨gap ++ (first ++ before), after, by simp, filled, each, ?_, ends⟩
      intro c last
      cases before with
      | nil =>
        obtain ⟨d, word, rfl⟩ := List.exists_cons_of_ne_nil filled
        have gap : separates d = true := stops d (by simp)
        simp [gap] at each
      | cons d before => exact starts c (by simpa [List.getLast?_append] using last)

theorem mem_wordsBy : word ∈ wordsBy separates s ↔ ∃ before after, IsRun separates s before word after :=
  ⟨(runs_wordsBy separates s).isRun, fun ⟨_, _, run⟩ => run.mem⟩

end RouteQuote.Text
