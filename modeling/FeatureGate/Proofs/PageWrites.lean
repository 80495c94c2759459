namespace FeatureGate.Registry

structure Line (κ ν : Type) where
  number : Int
  key : κ
  value : ν
deriving DecidableEq, Repr

-- A table by its meaning. Nothing here keeps a key from occurring twice, or a
-- number from being out of order; foreign writers may have left anything.
structure Page (κ ν : Type) where
  lines : List (Line κ ν) := []
  next : Int := 1
deriving DecidableEq, Repr

namespace Page
variable {κ ν : Type} [DecidableEq κ]

def keys (page : Page κ ν) : List κ := page.lines.map (·.key)

def under (page : Page κ ν) (key : κ) : List (Line κ ν) := page.lines.filter (·.key = key)

def first? (page : Page κ ν) (key : κ) : Option ν := (page.lines.find? (·.key = key)).map (·.value)

def add (page : Page κ ν) (key : κ) (value : ν) : Page κ ν :=
  { lines := page.lines ++ [⟨page.next, key, value⟩], next := page.next + 1 }

def rewrite (page : Page κ ν) (key : κ) (value : ν) : Page κ ν :=
  { page with lines := page.lines.map fun line => if line.key = key then { line with value } else line }

def write (page : Page κ ν) (key : κ) (value : ν) : Page κ ν :=
  if key ∈ page.keys then page.rewrite key value else page.add key value

def strike (page : Page κ ν) (key : κ) : Page κ ν :=
  { page with lines := page.lines.filter (·.key ≠ key) }

theorem first?_none {page : Page κ ν} : page.first? key = none ↔ key ∉ page.keys := by
  simp [first?, keys]

theorem first?_isSome {page : Page κ ν} : (page.first? key).isSome = true ↔ key ∈ page.keys := by
  rw [← Option.ne_none_iff_isSome, ne_eq, first?_none, Classical.not_not]

theorem under_nil {page : Page κ ν} : page.under key = [] ↔ key ∉ page.keys := by
  simp [under, keys, List.filter_eq_nil_iff]

theorem first?_under (page : Page κ ν) (key : κ) :
    page.first? key = (page.under key).head?.map (·.value) := by
  rw [first?, under, List.head?_filter]

theorem keys_rewrite (page : Page κ ν) (key : κ) (value : ν) :
    (page.rewrite key value).keys = page.keys := by
  simp only [keys, rewrite, List.map_map]
  refine List.map_congr_left fun line _ => ?_
  by_cases same : line.key = key <;> simp [same]

theorem keys_write (page : Page κ ν) (key : κ) (value : ν) :
    (page.write key value).keys = if key ∈ page.keys then page.keys else page.keys ++ [key] := by
  unfold write
  split
  · exact keys_rewrite _ _ _
  · simp [keys, add]

theorem keys_strike (page : Page κ ν) (key : κ) :
    (page.strike key).keys = page.keys.filter (· ≠ key) := by
  simp only [keys, strike, List.filter_map]
  rfl

theorem first?_rewrite (page : Page κ ν) (key other : κ) (value : ν) :
    (page.rewrite key value).first? other =
      if other = key then (page.first? key).map fun _ => value else page.first? other := by
  simp only [first?, rewrite]
  induction page.lines with
  | nil => split <;> simp
  | cons line rest ih =>
      by_cases same : line.key = key
      · by_cases asked : other = key
        · simp [same, asked]
        · have away : ¬ key = other := fun h => asked h.symm
          simpa [same, asked, away] using ih
      · by_cases asked : other = key
        · subst asked; simpa [same] using ih
        · by_cases here : line.key = other <;> simp_all

theorem first?_add {page : Page κ ν} (fresh : key ∉ page.keys) (other : κ) (value : ν) :
    (page.add key value).first? other = if other = key then some value else page.first? other := by
  by_cases asked : other = key
  · subst asked
    have nothing := first?_none.mpr fresh
    simp only [first?, Option.map_eq_none_iff] at nothing
    simp [first?, add, List.find?_append, nothing]
  · have away : ¬ key = other := fun h => asked h.symm
    simp [first?, add, List.find?_append, asked, away]

theorem first?_write (page : Page κ ν) (key other : κ) (value : ν) :
    (page.write key value).first? other = if other = key then some value else page.first? other := by
  unfold write
  split
  · rename_i held
    obtain ⟨old, found⟩ := Option.isSome_iff_exists.mp (first?_isSome.mpr held)
    rw [first?_rewrite, found, Option.map_some]
  · rename_i fresh
    exact first?_add fresh other value

theorem strike_absent {page : Page κ ν} (absent : key ∉ page.keys) : page.strike key = page := by
  have kept : page.lines.filter (·.key ≠ key) = page.lines := by
    refine List.filter_eq_self.mpr fun line held => ?_
    have other : line.key ≠ key := fun same => absent (same ▸ List.mem_map_of_mem held)
    simpa using other
  rw [strike, kept]

theorem first?_held {page : Page κ ν} (distinct : page.keys.Nodup) (held : line ∈ page.lines) :
    page.first? line.key = some line.value := by
  obtain ⟨lines, next⟩ := page
  simp only [keys] at distinct
  simp only [first?]
  induction lines with
  | nil => cases held
  | cons front rest ih =>
      simp only [List.map_cons, List.nodup_cons] at distinct
      rcases List.mem_cons.mp held with here | there
      · simp [here]
      · have other : front.key ≠ line.key := fun same => distinct.1 (same ▸ List.mem_map_of_mem there)
        rw [List.find?_cons_of_neg (by simpa using other)]
        exact ih distinct.2 there

theorem others_write (page : Page κ ν) (key : κ) (value : ν) :
    (page.write key value).lines.filter (·.key ≠ key) = page.lines.filter (·.key ≠ key) := by
  unfold write
  split
  · simp only [rewrite]
    induction page.lines with
    | nil => rfl
    | cons line rest ih =>
        simp only [ne_eq, decide_not] at ih
        by_cases same : line.key = key <;> simp [same, ih]
  · simp [add]

theorem under_write {page : Page κ ν} (other : asked ≠ key) (value : ν) :
    (page.write key value).under asked = page.under asked := by
  have through : ∀ page : Page κ ν, page.under asked = (page.lines.filter (·.key ≠ key)).filter (·.key = asked) := by
    intro page
    rw [List.filter_filter, under]
    refine List.filter_congr fun line _ => ?_
    by_cases here : line.key = asked <;> simp [here, other]
  rw [through, through page, others_write]

-- What a page is when no one but the registry has written it.
structure Sound (fair : κ → Prop) (legal : ν → Prop) (page : Page κ ν) : Prop where
  distinct : page.keys.Nodup
  fair : ∀ line ∈ page.lines, fair line.key
  legal : ∀ line ∈ page.lines, legal line.value
  ascending : (page.lines.map (·.number)).Pairwise (· < ·)
  below : ∀ line ∈ page.lines, line.number < page.next

variable {fair : κ → Prop} {legal : ν → Prop} {page : Page κ ν}

theorem first?_legal (sound : page.Sound fair legal) (found : page.first? key = some value) : legal value := by
  obtain ⟨line, there, rfl⟩ := Option.map_eq_some_iff.mp found
  exact sound.legal line (List.mem_of_find?_eq_some there)

omit [DecidableEq κ] in
theorem empty_sound : Sound fair legal ({} : Page κ ν) :=
  ⟨by simp [keys], by simp, by simp, by simp, by simp⟩

omit [DecidableEq κ] in
theorem add_sound (sound : page.Sound fair legal) (fresh : key ∉ page.keys) (fairKey : fair key)
    (legalValue : legal value) : (page.add key value).Sound fair legal := by
  refine ⟨?_, ?_, ?_, ?_, ?_⟩
  · simp only [keys, add, List.map_append, List.map_cons, List.map_nil]
    exact List.pairwise_append.mpr ⟨sound.distinct, by simp, fun held there other new => by
      rw [List.mem_singleton.mp new]
      exact fun same => fresh (same ▸ there)⟩
  · intro line held
    rcases List.mem_append.mp held with old | new
    · exact sound.fair line old
    · rw [List.mem_singleton.mp new]; exact fairKey
  · intro line held
    rcases List.mem_append.mp held with old | new
    · exact sound.legal line old
    · rw [List.mem_singleton.mp new]; exact legalValue
  · simp only [add, List.map_append, List.pairwise_append]
    refine ⟨sound.ascending, by simp, ?_⟩
    simpa using sound.below
  · intro line held
    rcases List.mem_append.mp held with old | new
    · have bound := sound.below line old
      simp only [add]; omega
    · rw [List.mem_singleton.mp new]; simp only [add]; omega

theorem rewrite_sound (sound : page.Sound fair legal) (legalValue : legal value) :
    (page.rewrite key value).Sound fair legal := by
  have back : ∀ line ∈ (page.rewrite key value).lines, ∃ old ∈ page.lines,
      line.key = old.key ∧ line.number = old.number ∧ (line.value = value ∨ line.value = old.value) := by
    intro line held
    obtain ⟨old, there, rfl⟩ := List.mem_map.mp held
    refine ⟨old, there, ?_⟩
    split <;> simp
  refine ⟨?_, ?_, ?_, ?_, ?_⟩
  · rw [keys_rewrite]; exact sound.distinct
  · intro line held
    obtain ⟨old, there, sameKey, _⟩ := back line held
    rw [sameKey]; exact sound.fair old there
  · intro line held
    obtain ⟨old, there, _, _, new | kept⟩ := back line held
    · rw [new]; exact legalValue
    · rw [kept]; exact sound.legal old there
  · have numbers : (page.rewrite key value).lines.map (·.number) = page.lines.map (·.number) := by
      simp only [rewrite, List.map_map]
      refine List.map_congr_left fun line _ => ?_
      by_cases same : line.key = key <;> simp [same]
    rw [numbers]; exact sound.ascending
  · intro line held
    obtain ⟨old, there, _, sameNumber, _⟩ := back line held
    rw [sameNumber]; exact sound.below old there

theorem write_sound (sound : page.Sound fair legal) (fairKey : fair key) (legalValue : legal value) :
    (page.write key value).Sound fair legal := by
  unfold write
  split
  · exact rewrite_sound sound legalValue
  · rename_i fresh
    exact add_sound sound fresh fairKey legalValue

theorem strike_sound (sound : page.Sound fair legal) : (page.strike key).Sound fair legal := by
  have kept : ∀ line ∈ (page.strike key).lines, line ∈ page.lines :=
    fun line held => (List.mem_filter.mp held).1
  refine ⟨?_, fun line held => sound.fair line (kept line held),
    fun line held => sound.legal line (kept line held), ?_,
    fun line held => sound.below line (kept line held)⟩
  · rw [keys_strike]; exact sound.distinct.filter _
  · exact sound.ascending.sublist (List.filter_sublist.map _)

end Page
end FeatureGate.Registry
